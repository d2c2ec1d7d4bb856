import HitMonitor.Proofs.Capture.Recording
import HitMonitor.Proofs.Document.Settings
import HitMonitor.Proofs.Storage.Directory

/-!
# What a recording leaves behind

A recording reads its settings, creates its file and makes its messages, in this order.  Settings
that are refused and a file that cannot be created leave everything as it was.  Whether the records
of a message fit a frame is only found out with the first message, when the file has been emptied
already.
-/

namespace HitMonitor

/-! ## Written twice -/

namespace FileTree

/-- A tree with a file under a path that is otherwise like another tree. -/
structure Replaces (after before : FileTree) (path : String) (content : FileContent) : Prop where
  read : after.read path = .ok content
  elsewhere : ∃ place, before.locate (start path) (parts path) = .ok place ∧
    ∀ other, place ≠ other → after.node? other = before.node? other

variable {tree created stored : FileTree} {path : String} {first second : FileContent}

/-- A file that is written a second time is the only one that changes. -/
theorem replaces_of_write_write (create : tree.write path first = .ok created)
    (store : created.write path second = .ok stored) : stored.Replaces tree path second := by
  refine ⟨read_of_write store, ?_⟩
  obtain ⟨_, _, place, located, notDirectory, rfl⟩ := write_eq_ok_iff.mp create
  obtain ⟨_, _, again, relocated, stillNone, rfl⟩ := write_eq_ok_iff.mp store
  rw [locate_put notDirectory _ located] at relocated
  obtain rfl := Except.ok.inj relocated
  refine ⟨place, located, fun other elsewhere => ?_⟩
  rw [node?_put (not_given_of_node? stillNone), if_neg elsewhere,
    node?_put (not_given_of_node? notDirectory), if_neg elsewhere]

end FileTree

/-- Settings are valid wherever they come from. -/
theorem valid_of_settingsFrom {tree : FileTree} {path : Option String}
    {settings : MonitorSettings} (found : settingsFrom tree path = .ok settings) :
    settings.validate = .ok () := by
  cases path with
  | none =>
      cases found
      rfl
  | some path => exact (MonitorSettings.valid_of_load found).1

theorem layout_fits {settings : MonitorSettings} (valid : settings.validate = .ok ()) :
    settings.layout.Fits :=
  (MonitorSettings.validate_eq_ok_iff.mp valid).2.2.2.2

namespace RecordRequest

variable {request : RecordRequest} {tree created : FileTree} {settings : MonitorSettings}

/-! ## The ways to end -/

/-- The ways in which a recording ends. -/
inductive Ends (request : RecordRequest) (tree : FileTree) : Outcome → Prop where
  | settingsRefused {error : StorageError} :
      settingsFrom tree request.settings = .error error →
      Ends request tree (.failed (.storage error) tree)
  | outputRefused {settings : MonitorSettings} {fault : FileFault} :
      settingsFrom tree request.settings = .ok settings →
      tree.write request.output (.bytes []) = .error fault →
      Ends request tree (.failed (.storage (.file fault)) tree)
  | recordsRefused {settings : MonitorSettings} {created left : FileTree} :
      settingsFrom tree request.settings = .ok settings →
      tree.write request.output (.bytes []) = .ok created →
      0 < request.messages → word32Max < request.records * settings.layout.stride →
      left.Replaces tree request.output (.bytes []) →
      Ends request tree
        ⟨.error (.storage (.format (.recordsTooLong request.records settings.layout.stride))), [],
          left⟩
  | recorded {settings : MonitorSettings} {created stored : FileTree}
      {payloads : List (List UInt8)} :
      settingsFrom tree request.settings = .ok settings →
      tree.write request.output (.bytes []) = .ok created →
      request.messages = 0 ∨ request.records * settings.layout.stride ≤ word32Max →
      payloads.length = request.messages → (∀ payload ∈ payloads, payload.length ≤ word32Max) →
      stored.Replaces tree request.output (.bytes (encodeFrames payloads)) →
      Ends request tree
        ⟨.ok (.record ⟨request.output, request.messages, request.records⟩), [], stored⟩

/-- The first message whose records do not fit a frame ends the recording. -/
theorem addMessages_of_too_long {plan : SyntheticPlan} (fits : plan.layout.Fits)
    (long : word32Max < plan.records * plan.layout.stride) {count : Nat} (some_left : 0 < count)
    {State : Type} (source : RandomSource State) (state : State) (builder : CaptureBuilder) :
    addMessages plan source count state builder =
      (builder, .error (.format (.recordsTooLong plan.records plan.layout.stride))) := by
  cases count with
  | zero => cases some_left
  | succ count =>
      rw [addMessages]
      simp only [plan.messageFrom_of_long fits long]

/-- Messages that fit a frame are all added, and none is longer than a frame can say. -/
theorem exists_addMessages_of_framed (valid : settings.validate = .ok ())
    (framed : request.messages = 0 ∨
      request.records * settings.layout.stride ≤ word32Max) :
    ∃ payloads builder, addMessages (request.plan settings) Generator.source request.messages
        (.ofSeed (request.plan settings).seed) .empty = (builder, .ok ()) ∧
      payloads.length = request.messages ∧ (∀ payload ∈ payloads, payload.length ≤ word32Max) ∧
      builder.bytes = encodeFrames payloads ∧ builder.messages = request.messages := by
  rcases framed with none_asked | framed
  · refine ⟨[], .empty, ?_, none_asked.symm, List.forall_mem_nil _, rfl, none_asked.symm⟩
    rw [none_asked]
    rfl
  · have fits : (request.plan settings).layout.Fits := layout_fits valid
    have planFramed : (request.plan settings).records * (request.plan settings).layout.stride ≤
        word32Max := framed
    obtain ⟨payloads, builder, added, written, length_eq, _⟩ :=
      exists_addMessages Generator.sound_source fits planFramed request.messages
        (.ofSeed (request.plan settings).seed) .empty
    obtain ⟨bytes_eq, short⟩ := CaptureBuilder.bytes_of_ofMessages written
    refine ⟨payloads, builder, added, length_eq, short, bytes_eq, ?_⟩
    rw [CaptureBuilder.foldlM_append_of_short short] at written
    cases written
    exact (Nat.zero_add _).trans length_eq

theorem store_empty : CaptureBuilder.empty.store tree request.output =
    (tree.write request.output (.bytes [])).mapError .file := rfl

/-- A recording ends behind the messages that could be added, which are stored in any case. -/
theorem exists_run (found : settingsFrom tree request.settings = .ok settings)
    (create : tree.write request.output (.bytes []) = .ok created) {builder : CaptureBuilder}
    {result : Except StorageError Unit}
    (added : addMessages (request.plan settings) Generator.source request.messages
      (.ofSeed (request.plan settings).seed) .empty = (builder, result)) :
    ∃ stored, stored.Replaces tree request.output (.bytes builder.bytes) ∧
      request.run tree =
        ⟨(result.mapError .storage).map fun _ =>
          .record ⟨request.output, builder.messages, request.records⟩, [], stored⟩ := by
  have start : CaptureBuilder.empty.store tree request.output = .ok created := by
    rw [store_empty, create]
    rfl
  obtain ⟨stored, store, _⟩ := CaptureBuilder.exists_store start builder
  refine ⟨stored, FileTree.replaces_of_write_write create (mapError_eq_ok_iff.mp store), ?_⟩
  rw [run, runFrom]
  simp only [found, start, added, store]

theorem ends_run (request : RecordRequest) (tree : FileTree) :
    request.Ends tree (request.run tree) := by
  cases found : settingsFrom tree request.settings with
  | error error =>
      have run_eq : request.run tree = .failed (.storage error) tree := by
        rw [run, runFrom]
        simp only [found]
      rw [run_eq]
      exact .settingsRefused found
  | ok settings =>
    cases create : tree.write request.output (.bytes []) with
    | error fault =>
        have run_eq : request.run tree = .failed (.storage (.file fault)) tree := by
          rw [run, runFrom]
          simp only [found, store_empty, create]
          rfl
        rw [run_eq]
        exact .outputRefused found create
    | ok created =>
        have valid := valid_of_settingsFrom found
        by_cases framed : request.messages = 0 ∨
            request.records * settings.layout.stride ≤ word32Max
        · obtain ⟨payloads, builder, added, length_eq, short, bytes_eq, messages_eq⟩ :=
            exists_addMessages_of_framed valid framed
          obtain ⟨stored, replaces, run_eq⟩ := exists_run found create added
          rw [run_eq, messages_eq]
          exact .recorded found create framed length_eq short (bytes_eq ▸ replaces)
        · obtain ⟨some_asked, long⟩ := not_or.mp framed
          have fits : (request.plan settings).layout.Fits := layout_fits valid
          have added := addMessages_of_too_long fits (Nat.not_le.mp long)
            (Nat.pos_of_ne_zero some_asked) Generator.source
            (.ofSeed (request.plan settings).seed) .empty
          obtain ⟨left, replaces, run_eq⟩ := exists_run found create added
          rw [run_eq]
          exact .recordsRefused found create (Nat.pos_of_ne_zero some_asked) (Nat.not_le.mp long)
            replaces

/-- A recording that fails leaves its file as it was exactly if its settings were refused, its file
could not be created or its file was empty before: records that do not fit a frame are refused when
the file has been emptied.  A recording that succeeds leaves as many frames as it was asked for and
nothing behind them. -/
theorem failed_recording_keeps_output_iff (request : RecordRequest) (tree : FileTree) :
    let outcome := request.run tree
    let kept := outcome.tree.read request.output = tree.read request.output
    request.Ends tree outcome ∧
    (∀ error, outcome.result = .error error →
      (kept ↔ (∃ refused, settingsFrom tree request.settings = .error refused) ∨
        (∃ fault, tree.write request.output (.bytes []) = .error fault) ∨
        tree.read request.output = .ok (.bytes []))) ∧
    ∀ report, outcome.result = .ok report → ∃ payloads,
      payloads.length = request.messages ∧
      outcome.tree.read request.output = .ok (.bytes (encodeFrames payloads)) ∧
      CaptureFrames.ofBytes (encodeFrames payloads) = ⟨framesAt 0 payloads, 0⟩ := by
  intro outcome kept
  have ends : request.Ends tree outcome := ends_run request tree
  clear_value outcome
  refine ⟨ends, fun error failed => ?_, fun report succeeded => ?_⟩
  · cases ends with
    | settingsRefused refused => exact ⟨fun _ => .inl ⟨_, refused⟩, fun _ => rfl⟩
    | outputRefused _ refused => exact ⟨fun _ => .inr (.inl ⟨_, refused⟩), fun _ => rfl⟩
    | recordsRefused found create _ _ replaces =>
        have accepted : ¬ ∃ refused, settingsFrom tree request.settings = .error refused := by
          rw [found]
          rintro ⟨_, impossible⟩
          cases impossible
        have creatable :
            ¬ ∃ fault, tree.write request.output (.bytes []) = .error fault := by
          rw [create]
          rintro ⟨_, impossible⟩
          cases impossible
        rw [or_iff_right accepted, or_iff_right creatable]
        simp only [kept, replaces.read]
        exact eq_comm
    | recorded => cases failed
  · cases ends with
    | settingsRefused => cases succeeded
    | outputRefused => cases succeeded
    | recordsRefused => cases succeeded
    | recorded _ _ _ length_eq short replaces =>
        have scanned := CaptureFrames.ofBytes_encodeFrames short (show CutOff [] by decide)
        rw [List.append_nil] at scanned
        exact ⟨_, length_eq, replaces.read, scanned⟩

/-- A capture of one message is empty after a recording that was refused. -/
theorem refused_recording_empties_output :
    let capture := encodeFrame [1, 2, 3]
    let tree : FileTree := ⟨[(["o.cap"], .file (.bytes capture))]⟩
    let request : RecordRequest := { output := "o.cap", messages := 1, records := 400000000 }
    let outcome := request.run tree
    outcome.result = .error (.storage (.format (.recordsTooLong 400000000 12))) ∧
      tree.read "o.cap" = .ok (.bytes capture) ∧
      outcome.tree.read "o.cap" = .ok (.bytes []) := by
  intro capture tree request outcome
  have plain : IsPlain "o.cap" := ⟨by decide, by decide, by decide, by decide⟩
  have starts : FileTree.start "o.cap" = [] := by
    rw [FileTree.start, FileTree.not_startsWith_slash plain]
    rfl
  have parts : FileTree.parts "o.cap" = ["o.cap"] := by decide
  have checked : FileTree.checkPath "o.cap" = .ok () := by
    rw [FileTree.checkPath_eq_ok_iff]
    decide
  have slash := FileTree.not_endsWith_slash plain
  have located : tree.locate (FileTree.start "o.cap") (FileTree.parts "o.cap") =
      .ok ["o.cap"] := by
    rw [starts, parts]
    rfl
  have create : tree.write "o.cap" (.bytes []) = .ok (tree.put ["o.cap"] (.file (.bytes []))) :=
    FileTree.write_eq_ok_iff.mpr ⟨checked, slash, _, located, by decide, rfl⟩
  have found : settingsFrom tree request.settings = .ok .standard := rfl
  have fits : (request.plan .standard).layout.Fits := layout_fits (valid_of_settingsFrom found)
  have long : word32Max <
      (request.plan .standard).records * (request.plan .standard).layout.stride := by decide
  have added := addMessages_of_too_long fits long Nat.one_pos Generator.source
    (.ofSeed (request.plan .standard).seed) .empty
  obtain ⟨left, replaces, run_eq⟩ := exists_run found create added
  refine ⟨?_, FileTree.read_eq_ok_iff.mpr ⟨checked, slash, _, located, by decide⟩, ?_⟩
  · rw [show outcome = _ from run_eq]
    rfl
  · rw [show outcome = _ from run_eq]
    exact replaces.read

end RecordRequest

end HitMonitor
