import HitMonitor.Document.SettingsFile
import HitMonitor.Proofs.Json.Record
import HitMonitor.Proofs.Monitor.Settings

/-!
# Settings that were read

Whatever a settings document says and whatever it leaves out, settings are only handed over if a
monitor can run with them and each of their values fits the word that holds it.
-/

namespace HitMonitor

open Json

/-- A field for an unsigned integer sets no value above its limit. -/
theorem unsignedField_preserves {Partial : Type} {Keeps : Partial → Prop} {key type : String}
    {limit : Nat} {set : Partial → Nat → Partial}
    (sets : ∀ ⦃result value⦄, Keeps result → value ≤ limit → Keeps (set result value)) :
    (unsignedField key type limit set).Preserves Keeps := by
  intro result input next rest before read
  obtain ⟨⟨value, behind⟩, found, same⟩ := map_eq_ok_iff.mp read
  cases same
  exact sets before (readUnsigned_le found)

namespace Layout

/-- Both sizes of a layout fit a word. -/
def InWords (layout : Layout) : Prop :=
  layout.stride ≤ word64Max ∧ layout.indexOffset ≤ word64Max

theorem inWords_of_read {input rest : Bytes} {layout : Layout}
    (read : shape.read input = .ok (layout, rest)) : layout.InWords := by
  refine RecordShape.read_keeps (fun field member => ?_) ⟨by decide, by decide⟩ read
  simp only [shape, List.mem_cons, List.not_mem_nil, or_false] at member
  rcases member with rfl | rfl
  · exact unsignedField_preserves fun _ _ before inside => ⟨inside, before.2⟩
  · exact unsignedField_preserves fun _ _ before inside => ⟨before.1, inside⟩

end Layout

namespace MonitorSettings

theorem standard_inWords : standard.InWords where
  stride := by decide
  indexOffset := by decide
  recordsExpected := by
    intro records expected
    cases expected
    decide
  period := by decide
  pollWaitMs := by decide
  longestMessage := by decide

/-- What is missing keeps its standard value, and what is there fits. -/
theorem inWords_of_read {input rest : Bytes} {settings : MonitorSettings}
    (read : shape.read input = .ok (settings, rest)) : settings.InWords := by
  refine RecordShape.read_keeps (fun field member => ?_) standard_inWords read
  simp only [shape, List.mem_cons, List.not_mem_nil, or_false] at member
  rcases member with rfl | rfl | rfl | rfl | rfl | rfl
  · intro result input next rest before read
    obtain ⟨⟨grid, behind⟩, _, same⟩ := map_eq_ok_iff.mp read
    cases same
    exact { before with }
  · intro result input next rest before read
    obtain ⟨⟨layout, behind⟩, found, same⟩ := map_eq_ok_iff.mp read
    cases same
    obtain ⟨stride, indexOffset⟩ := Layout.inWords_of_read found
    exact { before with stride := stride, indexOffset := indexOffset }
  · intro result input next rest before read
    obtain ⟨⟨records, behind⟩, found, same⟩ := map_eq_ok_iff.mp read
    cases same
    refine { before with recordsExpected := fun expected some_eq => ?_ }
    cases some_eq
    obtain ⟨input, inner⟩ := readOptional_eq_some found
    exact readUnsigned_le inner
  · exact unsignedField_preserves fun _ _ before inside => { before with period := inside }
  · exact unsignedField_preserves fun _ _ before inside => { before with pollWaitMs := inside }
  · exact unsignedField_preserves fun _ _ before inside => { before with longestMessage := inside }

theorem inWords_of_ofDocument {document : Bytes} {settings : MonitorSettings}
    (read : ofDocument document = .ok settings) : settings.InWords := by
  refine readDocument_keeps (fun input value rest found => ?_) read
  refine RecordShape.read_keeps (fun field member => ?_) standard_inWords found
  simp only [documentShape, List.mem_singleton] at member
  rw [member]
  exact fun result input next rest _ inner => inWords_of_read inner

/-- The settings are asked for faults once they have been read. -/
theorem ofDocumentBytes_of_ok {document : Bytes} {settings : MonitorSettings}
    (read : ofDocument document = .ok settings) :
    ofDocumentBytes document = (settings.validate.mapError .monitor).map fun _ => settings := by
  have wrapped : (ofDocument document).mapError StorageError.document = .ok settings :=
    mapError_eq_ok_iff.mpr read
  rw [ofDocumentBytes, wrapped, ok_bind]
  cases settings.validate <;> rfl

/-- Settings that are handed over are valid and fit their words. -/
theorem valid_of_ofDocumentBytes {document : List UInt8} {settings : MonitorSettings}
    (loaded : ofDocumentBytes document = .ok settings) :
    settings.validate = .ok () ∧ settings.InWords := by
  obtain ⟨found, read, loaded⟩ := bind_eq_ok_iff.mp loaded
  obtain ⟨_, valid, same⟩ := bind_eq_ok_iff.mp loaded
  cases same
  exact ⟨mapError_eq_ok_iff.mp valid, inWords_of_ofDocument (mapError_eq_ok_iff.mp read)⟩

theorem valid_of_load {tree : FileTree} {path : String} {settings : MonitorSettings}
    (loaded : load tree path = .ok settings) :
    settings.validate = .ok () ∧ settings.InWords := by
  unfold load at loaded
  split at loaded
  next => exact valid_of_ofDocumentBytes loaded
  next => cases loaded
  next => cases loaded

end MonitorSettings

end HitMonitor
