import HitMonitor.Proofs.Document.Settings
import HitMonitor.Proofs.Json.Alike
import HitMonitor.Proofs.Json.RecordMeaning

/-!
# Settings documents overlay the standard settings

What a settings document says is said by its tree: every value that is given replaces the standard
one, and every other value stays.  A layout that is given in part keeps the rest of the standard
layout, a grid has to be given whole, and `null` stands for no expected records.
-/

namespace HitMonitor

open Json

/-! ## What documents say -/

/-- The meaning of a tree if there is one, and a default otherwise. -/
def valueOr {Value : Type} (default : Value) (meaning : Tree → Option Value) :
    Option Tree → Option Value
  | some tree => meaning tree
  | none => some default

namespace Layout

def keys : List String := ["stride", "index_offset"]

/-- A layout keeps the standard value of what is not given. -/
def ofTree? (tree : Tree) : Option Layout := do
  let given ← tree.given? keys
  let stride ← valueOr standard.stride (Tree.natural? word64Max) (given.lookup "stride")
  let indexOffset ←
    valueOr standard.indexOffset (Tree.natural? word64Max) (given.lookup "index_offset")
  return { stride := stride, indexOffset := indexOffset }

end Layout

namespace Extents

def keys : List String := ["x", "y", "z"]

/-- Extents are given whole. -/
def ofTree? (tree : Tree) : Option Extents := do
  let given ← tree.given? keys
  let x ← (← given.lookup "x").natural? word64Max
  let y ← (← given.lookup "y").natural? word64Max
  let z ← (← given.lookup "z").natural? word64Max
  return { x := x, y := y, z := z }

end Extents

/-- A grid has extents that can be accepted. -/
def Grid.ofTree? (tree : Tree) : Option Grid := do
  let extents ← Extents.ofTree? tree
  (ofExtents extents).toOption

namespace MonitorSettings

def keys : List String :=
  ["grid", "layout", "records_per_message", "period", "poll_timeout_ms", "max_message_bytes"]

/-- Settings keep the standard value of what is not given. -/
def ofTree? (tree : Tree) : Option MonitorSettings := do
  let given ← tree.given? keys
  let grid ← valueOr standard.grid Grid.ofTree? (given.lookup "grid")
  let layout ← valueOr standard.layout Layout.ofTree? (given.lookup "layout")
  let recordsExpected ← valueOr standard.recordsExpected
    (Tree.optional? (Tree.natural? word64Max)) (given.lookup "records_per_message")
  let period ← valueOr standard.period (Tree.natural? word32Max) (given.lookup "period")
  let pollWaitMs ←
    valueOr standard.pollWaitMs (Tree.natural? word64Max) (given.lookup "poll_timeout_ms")
  let longestMessage ←
    valueOr standard.longestMessage (Tree.natural? word64Max) (given.lookup "max_message_bytes")
  return {
    grid := grid
    layout := layout
    recordsExpected := recordsExpected
    period := period
    pollWaitMs := pollWaitMs
    longestMessage := longestMessage }

def documentKeys : List String := ["monitor"]

/-- A document has one section. -/
def ofDocumentTree? (tree : Tree) : Option MonitorSettings := do
  let given ← tree.given? documentKeys
  valueOr standard ofTree? (given.lookup "monitor")

end MonitorSettings

/-! ## Fields -/

/-- A field for an unsigned integer means a literal within its limit. -/
theorem has_unsigned {Partial : Type} (key type : String) {limit : Nat} (word : limit ≤ word64Max)
    (set : Partial → Nat → Partial) :
    (unsignedField key type limit set).Has
      ⟨key, Nat, Tree.natural? limit, fun value result => set result value⟩ :=
  ⟨rfl, fun result => (means_unsigned word type).map (set result)⟩

/-- What a field of a record that needs none means in front of the other fields. -/
theorem overlay_valueOr {Partial : Type} (field : FieldMeaning Partial)
    (get : Partial → field.Value)
    (unchanged : ∀ result, field.set (get result) result = result) (given : List (String × Tree))
    (fields : List (FieldMeaning Partial)) (result : Partial) :
    overlay given (field :: fields) result =
      (valueOr (get result) field.meaning (given.lookup field.key)).bind fun value =>
        overlay given fields (field.set value result) := by
  rw [overlay, FieldMeaning.step]
  cases given.lookup field.key with
  | none => simp only [valueOr, Option.bind_some, unchanged]
  | some tree =>
      simp only [FieldMeaning.change?, Option.bind_map]
      rfl

/-- What a field of a record that needs all of them means in front of the other fields. -/
theorem overlaid?_needed {Partial : Type} (field : FieldMeaning Partial)
    (given : List (String × Tree)) (fields : List (FieldMeaning Partial)) (result : Partial) :
    overlaid? true (field :: fields) result given =
      (given.lookup field.key).bind fun tree => (field.meaning tree).bind fun value =>
        overlaid? true fields (field.set value result) given := by
  cases found : given.lookup field.key with
  | none => exact if_neg fun complete => by simpa [found] using complete rfl field List.mem_cons_self
  | some tree =>
      have complete : (∀ other ∈ field :: fields, (given.lookup other.key).isSome) ↔
          ∀ other ∈ fields, (given.lookup other.key).isSome := by
        rw [List.forall_mem_cons, found]
        simp
      simp only [overlaid?, complete, overlay, FieldMeaning.step, FieldMeaning.change?, found,
        Option.bind_some]
      cases field.meaning tree with
      | none => exact ite_self none
      | some value => rfl

namespace Layout

def meanings : List (FieldMeaning Layout) := [
  ⟨"stride", Nat, Tree.natural? word64Max, fun value layout => { layout with stride := value }⟩,
  ⟨"index_offset", Nat, Tree.natural? word64Max,
    fun value layout => { layout with indexOffset := value }⟩]

theorem has_meanings : shape.Has meanings where
  each := .cons (has_unsigned _ _ (Nat.le_refl _) _)
    (.cons (has_unsigned _ _ (Nat.le_refl _) _) .nil)
  distinct := by decide
  commute := by simp [meanings, FieldMeaning.Commutes]

theorem meaning_eq : shape.meaning meanings = ofTree? := by
  funext tree
  rw [RecordShape.meaning, ofTree?]
  refine congrArg (Option.bind (tree.given? keys)) (funext fun given => ?_)
  refine (overlaid?_false meanings standard given).trans ?_
  simp only [meanings]
  rw [overlay_valueOr _ stride (fun _ => rfl)]
  refine congrArg (Option.bind _) (funext fun value => ?_)
  rw [overlay_valueOr _ indexOffset (fun _ => rfl)]
  rfl

theorem means_read : Means shape.read ofTree? := by
  rw [← meaning_eq]
  exact RecordShape.means_read has_meanings

end Layout

namespace Extents

def meanings : List (FieldMeaning Extents) := [
  ⟨"x", Nat, Tree.natural? word64Max, fun value extents => { extents with x := value }⟩,
  ⟨"y", Nat, Tree.natural? word64Max, fun value extents => { extents with y := value }⟩,
  ⟨"z", Nat, Tree.natural? word64Max, fun value extents => { extents with z := value }⟩]

theorem has_meanings : shape.Has meanings where
  each := .cons (has_unsigned _ _ (Nat.le_refl _) _)
    (.cons (has_unsigned _ _ (Nat.le_refl _) _)
      (.cons (has_unsigned _ _ (Nat.le_refl _) _) .nil))
  distinct := by decide
  commute := by simp [meanings, FieldMeaning.Commutes]

theorem meaning_eq : shape.meaning meanings = ofTree? := by
  funext tree
  rw [RecordShape.meaning, ofTree?]
  refine congrArg (Option.bind (tree.given? keys)) (funext fun given => ?_)
  have needed : shape.needsAll = true := rfl
  simp only [needed, meanings, overlaid?_needed]
  rfl

theorem means_read : Means shape.read ofTree? := by
  rw [← meaning_eq]
  exact RecordShape.means_read has_meanings

end Extents

theorem Grid.means_readFrom : Means readFrom ofTree? := by
  intro tree text writes blanks rest blank delimited
  rw [readFrom, toOption_bind, Extents.means_read writes blank delimited, ofTree?]
  cases Extents.ofTree? tree with
  | none => rfl
  | some extents =>
      simp only [Option.map_some, Option.bind_some, Option.bind_eq_bind]
      cases ofExtents extents <;> rfl

namespace MonitorSettings

def meanings : List (FieldMeaning MonitorSettings) := [
  ⟨"grid", Grid, Grid.ofTree?, fun value settings => { settings with grid := value }⟩,
  ⟨"layout", Layout, Layout.ofTree?, fun value settings => { settings with layout := value }⟩,
  ⟨"records_per_message", Option Nat, Tree.optional? (Tree.natural? word64Max),
    fun value settings => { settings with recordsExpected := value }⟩,
  ⟨"period", Nat, Tree.natural? word32Max, fun value settings => { settings with period := value }⟩,
  ⟨"poll_timeout_ms", Nat, Tree.natural? word64Max,
    fun value settings => { settings with pollWaitMs := value }⟩,
  ⟨"max_message_bytes", Nat, Tree.natural? word64Max,
    fun value settings => { settings with longestMessage := value }⟩]

theorem has_meanings : shape.Has meanings where
  each := by
    refine .cons ⟨rfl, fun settings => ?_⟩ (.cons ⟨rfl, fun settings => ?_⟩
      (.cons ⟨rfl, fun settings => ?_⟩ (.cons (has_unsigned _ _ word32Max_le_word64Max _)
        (.cons (has_unsigned _ _ (Nat.le_refl _) _)
          (.cons (has_unsigned _ _ (Nat.le_refl _) _) .nil)))))
    · exact Grid.means_readFrom.map fun grid => { settings with grid := grid }
    · exact Layout.means_read.map fun layout => { settings with layout := layout }
    · exact (means_optional (means_unsigned (Nat.le_refl _) sizeType)).map
        fun records => { settings with recordsExpected := records }
  distinct := by decide
  commute := by simp [meanings, FieldMeaning.Commutes]

theorem meaning_eq : shape.meaning meanings = ofTree? := by
  funext tree
  rw [RecordShape.meaning, ofTree?]
  refine congrArg (Option.bind (tree.given? keys)) (funext fun given => ?_)
  refine (overlaid?_false meanings standard given).trans ?_
  simp only [meanings]
  rw [overlay_valueOr _ grid (fun _ => rfl)]
  refine congrArg (Option.bind _) (funext fun value => ?_)
  rw [overlay_valueOr _ layout (fun _ => rfl)]
  refine congrArg (Option.bind _) (funext fun value => ?_)
  rw [overlay_valueOr _ recordsExpected (fun _ => rfl)]
  refine congrArg (Option.bind _) (funext fun value => ?_)
  rw [overlay_valueOr _ period (fun _ => rfl)]
  refine congrArg (Option.bind _) (funext fun value => ?_)
  rw [overlay_valueOr _ pollWaitMs (fun _ => rfl)]
  refine congrArg (Option.bind _) (funext fun value => ?_)
  rw [overlay_valueOr _ longestMessage (fun _ => rfl)]
  rfl

theorem means_read : Means shape.read ofTree? := by
  rw [← meaning_eq]
  exact RecordShape.means_read has_meanings

/-- The section of a document replaces all settings. -/
def documentMeanings : List (FieldMeaning MonitorSettings) :=
  [⟨"monitor", MonitorSettings, ofTree?, fun value _ => value⟩]

theorem has_documentMeanings : documentShape.Has documentMeanings where
  each := by
    refine .cons ⟨rfl, fun result => ?_⟩ .nil
    simpa [FieldMeaning.change?] using means_read
  distinct := by decide
  commute := List.pairwise_singleton ..

theorem documentMeaning_eq : documentShape.meaning documentMeanings = ofDocumentTree? := by
  funext tree
  rw [RecordShape.meaning, ofDocumentTree?]
  refine congrArg (Option.bind (tree.given? documentKeys)) (funext fun given => ?_)
  refine (overlaid?_false documentMeanings standard given).trans ?_
  simp only [documentMeanings]
  rw [overlay_valueOr _ id (fun _ => rfl)]
  exact Option.bind_fun_some _

/-- A document is read as what its tree says, with blanks around it. -/
theorem toOption_ofDocument {tree : Tree} {document : Bytes} (documents : Documents tree document) :
    (ofDocument document).toOption = ofDocumentTree? tree := by
  obtain ⟨before, text, behind, blankBefore, blankBehind, writes, rfl⟩ := documents
  have delimited : Delimited behind := by
    have ended := delimited_of_blank blankBehind delimited_nil
    rwa [List.append_nil] at ended
  have read := RecordShape.means_read has_documentMeanings writes blankBefore delimited
  rw [documentMeaning_eq] at read
  have left : skipBlanks behind = [] := by
    have ended := skipBlanks_append blankBehind []
    rwa [List.append_nil] at ended
  rw [ofDocument, readDocument, toOption_bind, read]
  cases ofDocumentTree? tree with
  | none => rfl
  | some settings => simp [left]

end MonitorSettings

/-! ## Documents that say the same -/

/-- Layouts that differ in their notation. -/
def Layout.Alike : Tree → Tree → Prop := Json.Alike keys fun _ => Eq

/-- Extents that differ in their notation. -/
def Extents.Alike : Tree → Tree → Prop := Json.Alike keys fun _ => Eq

theorem Layout.ofTree?_of_alike {tree other : Tree} (alike : Layout.Alike tree other) :
    ofTree? tree = ofTree? other := by
  rw [← meaning_eq]
  exact overlaid?_of_alike has_meanings.distinct (fun _ _ _ _ same => congrArg _ same) _ _ alike

theorem Grid.ofTree?_of_alike {tree other : Tree} (alike : Extents.Alike tree other) :
    ofTree? tree = ofTree? other := by
  have extents : Extents.ofTree? tree = Extents.ofTree? other := by
    rw [← Extents.meaning_eq]
    exact overlaid?_of_alike Extents.has_meanings.distinct (fun _ _ _ _ same => congrArg _ same)
      _ _ alike
  rw [ofTree?, extents, ofTree?]

namespace MonitorSettings

/-- Settings that differ in their notation, also in that of their grid and their layout. -/
def Alike : Tree → Tree → Prop :=
  Json.Alike keys fun name tree other =>
    (name = "grid" ∧ Extents.Alike tree other) ∨ (name = "layout" ∧ Layout.Alike tree other) ∨
      tree = other

/-- Documents that differ in their notation and in that of their section. -/
def DocumentAlike : Tree → Tree → Prop := Json.Alike documentKeys fun _ => Alike

theorem ofTree?_of_alike {tree other : Tree} (alike : Alike tree other) :
    ofTree? tree = ofTree? other := by
  rw [← meaning_eq]
  refine overlaid?_of_alike has_meanings.distinct ?_ _ _ alike
  rintro field member tree other (⟨isGrid, same⟩ | ⟨isLayout, same⟩ | rfl)
  · simp only [meanings, List.mem_cons, List.not_mem_nil, or_false] at member
    rcases member with rfl | rfl | rfl | rfl | rfl | rfl
    · exact Grid.ofTree?_of_alike same
    all_goals exact absurd isGrid (by decide)
  · simp only [meanings, List.mem_cons, List.not_mem_nil, or_false] at member
    rcases member with rfl | rfl | rfl | rfl | rfl | rfl
    · exact absurd isLayout (by decide)
    · exact Layout.ofTree?_of_alike same
    all_goals exact absurd isLayout (by decide)
  · rfl

theorem ofDocumentTree?_of_alike {tree other : Tree} (alike : DocumentAlike tree other) :
    ofDocumentTree? tree = ofDocumentTree? other := by
  rw [← documentMeaning_eq]
  refine overlaid?_of_alike has_documentMeanings.distinct ?_ _ _ alike
  intro field member tree other same
  simp only [documentMeanings, List.mem_singleton] at member
  rw [member]
  exact ofTree?_of_alike same

end MonitorSettings

/-! ## Numbers outside their fields -/

theorem Layout.ofTree?_of_unread {key : String} (known : key ∈ keys) {tree inner : Tree}
    (found : tree.field? keys key = some inner) (unread : inner.natural? word64Max = none) :
    ofTree? tree = none := by
  rw [← meaning_eq]
  simp only [keys, List.mem_cons, List.not_mem_nil, or_false] at known
  rcases known with rfl | rfl
  · exact RecordShape.meaning_eq_none (.head _) found unread
  · exact RecordShape.meaning_eq_none (.tail _ (.head _)) found unread

theorem Grid.ofTree?_of_unread {key : String} (known : key ∈ Extents.keys) {tree inner : Tree}
    (found : tree.field? Extents.keys key = some inner)
    (unread : inner.natural? word64Max = none) : ofTree? tree = none := by
  have extents : Extents.ofTree? tree = none := by
    rw [← Extents.meaning_eq]
    simp only [Extents.keys, List.mem_cons, List.not_mem_nil, or_false] at known
    rcases known with rfl | rfl | rfl
    · exact RecordShape.meaning_eq_none (.head _) found unread
    · exact RecordShape.meaning_eq_none (.tail _ (.head _)) found unread
    · exact RecordShape.meaning_eq_none (.tail _ (.tail _ (.head _))) found unread
  rw [ofTree?, extents]
  rfl

namespace MonitorSettings

/-- The settings section of a document. -/
def section? (document : Tree) : Option Tree := document.field? documentKeys "monitor"

/-- Where a document gives a tree for a field that takes an unsigned integer up to a limit. -/
inductive UnsignedAt (document : Tree) : (limit : Nat) → Tree → Prop
  | settings {key : String} {limit : Nat} {tree : Tree}
      (field : (key, limit) ∈ [("records_per_message", word64Max), ("period", word32Max),
        ("poll_timeout_ms", word64Max), ("max_message_bytes", word64Max)])
      (found : (section? document).bind (·.field? keys key) = some tree) :
      UnsignedAt document limit tree
  | layout {key : String} {tree : Tree} (field : key ∈ Layout.keys)
      (found : ((section? document).bind (·.field? keys "layout")).bind
        (·.field? Layout.keys key) = some tree) :
      UnsignedAt document word64Max tree
  | grid {key : String} {tree : Tree} (field : key ∈ Extents.keys)
      (found : ((section? document).bind (·.field? keys "grid")).bind
        (·.field? Extents.keys key) = some tree) :
      UnsignedAt document word64Max tree

/-- The settings mean nothing with a number outside a field of theirs. -/
theorem ofTree?_eq_none {field : FieldMeaning MonitorSettings} (member : field ∈ meanings)
    {tree inner : Tree} (found : tree.field? keys field.key = some inner)
    (refused : field.meaning inner = none) : ofTree? tree = none := by
  rw [← meaning_eq]
  exact RecordShape.meaning_eq_none member found refused

theorem ofDocumentTree?_eq_none {document tree : Tree} (found : section? document = some tree)
    (refused : ofTree? tree = none) : ofDocumentTree? document = none := by
  rw [← documentMeaning_eq]
  exact RecordShape.meaning_eq_none List.mem_cons_self found refused

/-- A document with an integer outside its field says nothing. -/
theorem ofDocumentTree?_of_outside {document : Tree} {limit : Nat} {numeral : Numeral}
    (unsigned : UnsignedAt document limit (.number numeral)) (outside : numeral.Outside limit) :
    ofDocumentTree? document = none := by
  have unread := natural?_of_outside outside
  cases unsigned with
  | @settings key _ _ field found =>
      obtain ⟨tree, atSection, atKey⟩ := Option.bind_eq_some_iff.mp found
      refine ofDocumentTree?_eq_none atSection ?_
      simp only [List.mem_cons, Prod.mk.injEq, List.not_mem_nil, or_false] at field
      have meansNothing : ∃ meaning ∈ meanings, meaning.key = key ∧
          meaning.meaning (.number numeral) = none := by
        rcases field with ⟨rfl, rfl⟩ | ⟨rfl, rfl⟩ | ⟨rfl, rfl⟩ | ⟨rfl, rfl⟩
        · refine ⟨_, .tail _ (.tail _ (.head _)), rfl, ?_⟩
          exact congrArg (Option.map some) unread
        · exact ⟨_, .tail _ (.tail _ (.tail _ (.head _))), rfl, unread⟩
        · exact ⟨_, .tail _ (.tail _ (.tail _ (.tail _ (.head _)))), rfl, unread⟩
        · exact ⟨_, .tail _ (.tail _ (.tail _ (.tail _ (.tail _ (.head _))))), rfl, unread⟩
      obtain ⟨meaning, member, rfl, refused⟩ := meansNothing
      exact ofTree?_eq_none member atKey refused
  | layout field found =>
      obtain ⟨layout, atLayout, atKey⟩ := Option.bind_eq_some_iff.mp found
      obtain ⟨tree, atSection, inSection⟩ := Option.bind_eq_some_iff.mp atLayout
      refine ofDocumentTree?_eq_none atSection (ofTree?_eq_none (.tail _ (.head _)) inSection ?_)
      exact Layout.ofTree?_of_unread field atKey unread
  | grid field found =>
      obtain ⟨extents, atGrid, atKey⟩ := Option.bind_eq_some_iff.mp found
      obtain ⟨tree, atSection, inSection⟩ := Option.bind_eq_some_iff.mp atGrid
      refine ofDocumentTree?_eq_none atSection (ofTree?_eq_none (.head _) inSection ?_)
      exact Grid.ofTree?_of_unread field atKey unread

/-! ## Settings from documents -/

/-- What a document says is asked for faults before it is handed over. -/
theorem ofDocumentBytes_of_some {tree : Tree} {document : Bytes}
    (documents : Documents tree document) {settings : MonitorSettings}
    (said : ofDocumentTree? tree = some settings) :
    ofDocumentBytes document = (settings.validate.mapError .monitor).map fun _ => settings :=
  ofDocumentBytes_of_ok (toOption_eq_some_iff.mp ((toOption_ofDocument documents).trans said))

theorem ofDocumentBytes_of_none {tree : Tree} {document : Bytes}
    (documents : Documents tree document) (said : ofDocumentTree? tree = none) :
    ∃ error, ofDocumentBytes document = .error (.document error) := by
  obtain ⟨error, read⟩ := toOption_eq_none_iff.mp ((toOption_ofDocument documents).trans said)
  exact ⟨error, by rw [ofDocumentBytes, read]; rfl⟩

end MonitorSettings

/-- A document is read as the standard settings with the values that it gives in their places, and
then they are asked for faults.  Documents that give the same in another order, among other unknown
members or as lists are read alike.  An integer outside its field is an error, however long it is. -/
theorem documents_overlay_standard {tree : Tree} {document : String}
    (documents : Documents tree document.toUTF8.toList) :
    (∀ settings, MonitorSettings.ofDocumentTree? tree = some settings →
      MonitorSettings.ofText document =
        (settings.validate.mapError .monitor).map fun _ => settings) ∧
    (MonitorSettings.ofDocumentTree? tree = none →
      ∃ error, MonitorSettings.ofText document = .error (.document error)) ∧
    (∀ other otherDocument, MonitorSettings.DocumentAlike tree other →
      Documents other otherDocument.toUTF8.toList →
      MonitorSettings.ofDocumentTree? other = MonitorSettings.ofDocumentTree? tree ∧
      ∀ settings, MonitorSettings.ofDocumentTree? tree = some settings →
        MonitorSettings.ofText otherDocument = MonitorSettings.ofText document) ∧
    ∀ limit numeral, MonitorSettings.UnsignedAt tree limit (.number numeral) →
      numeral.Outside limit →
      ∃ error, MonitorSettings.ofText document = .error (.document error) := by
  have refused (nothing : MonitorSettings.ofDocumentTree? tree = none) :
      ∃ error, MonitorSettings.ofText document = .error (.document error) :=
    MonitorSettings.ofDocumentBytes_of_none documents nothing
  refine ⟨fun settings => MonitorSettings.ofDocumentBytes_of_some documents, refused,
    fun other otherDocument alike otherDocuments => ?_, fun limit numeral unsigned outside => ?_⟩
  · have same := (MonitorSettings.ofDocumentTree?_of_alike alike).symm
    refine ⟨same, fun settings said => ?_⟩
    rw [MonitorSettings.ofText, MonitorSettings.ofText,
      MonitorSettings.ofDocumentBytes_of_some documents said,
      MonitorSettings.ofDocumentBytes_of_some otherDocuments (same.trans said)]
  · exact refused (MonitorSettings.ofDocumentTree?_of_outside unsigned outside)

/-- Settings beside a member that is not known, the same settings with a list for the layout, and a
period that does not fit its word. -/
theorem documents_overlay_standard_sparse :
    ∃ object items outside : Tree, ∃ sparse reordered large : String, ∃ settings : MonitorSettings,
      sparse = "\x7b\"x\":[\x7b\x7d],\"monitor\":" ++
        "\x7b\"period\":7,\"layout\":\x7b\"stride\":16\x7d\x7d\x7d" ∧
      reordered = "\x7b\"monitor\":\x7b\"layout\":[16],\"period\":7\x7d\x7d" ∧
      large = "\x7b\"monitor\":\x7b\"period\":4294967296\x7d\x7d" ∧
      settings = { MonitorSettings.standard with period := 7, layout := ⟨16, 4⟩ } ∧
      Documents object sparse.toUTF8.toList ∧ Documents items reordered.toUTF8.toList ∧
      Documents outside large.toUTF8.toList ∧ MonitorSettings.DocumentAlike object items ∧
      MonitorSettings.ofText sparse = .ok settings ∧
      MonitorSettings.ofText reordered = .ok settings ∧
      ∃ error, MonitorSettings.ofText large = .error (.document error) := by
  let seven : Numeral := .integer false [code '7'] (by decide) rfl (by decide)
  let sixteen : Numeral := .integer false [code '1', code '6'] (by decide) rfl (by decide)
  let tooLarge : Numeral :=
    .integer false (encode "4294967296".toList) (by decide) rfl (by decide)
  have x : Plain "x" := by decide
  have monitor : Plain "monitor" := by decide
  have period : Plain "period" := by decide
  have layout : Plain "layout" := by decide
  have stride : Plain "stride" := by decide
  let stated : List Piece × Tree := (period.pieces, .number seven)
  let sized : Tree := .object [(stride.pieces, .number sixteen)]
  let listed : Tree := .list [.number sixteen]
  let object : Tree := .object [(x.pieces, .list [.object []]),
    (monitor.pieces, .object [stated, (layout.pieces, sized)])]
  let items : Tree := .object [(monitor.pieces, .object [(layout.pieces, listed), stated])]
  let outside : Tree := .object [(monitor.pieces, .object [(period.pieces, .number tooLarge)])]
  have first : Gap true [] := .first blank_nil
  have comma : Gap false [code ','] := .further blank_nil blank_nil
  have noMember {isFirst : Bool} : Writes (.members isFirst []) ([] ++ [code '\x7d']) :=
    .noMember blank_nil
  have writesObject : Writes (.value object) _ :=
    .object (.member first blank_nil blank_nil
      (.list (.item first (.object noMember) (.noItem blank_nil)))
      (.member comma blank_nil blank_nil
        (.object (.member first blank_nil blank_nil (.number seven)
          (.member comma blank_nil blank_nil
            (.object (.member first blank_nil blank_nil (.number sixteen) noMember)) noMember)))
        noMember))
  have writesItems : Writes (.value items) _ :=
    .object (.member first blank_nil blank_nil
      (.object (.member first blank_nil blank_nil
        (.list (.item first (.number sixteen) (.noItem blank_nil)))
        (.member comma blank_nil blank_nil (.number seven) noMember)))
      noMember)
  have writesOutside : Writes (.value outside) _ :=
    .object (.member first blank_nil blank_nil
      (.object (.member first blank_nil blank_nil (.number tooLarge) noMember)) noMember)
  have ofObject : Documents object ("\x7b\"x\":[\x7b\x7d],\"monitor\":" ++
      "\x7b\"period\":7,\"layout\":\x7b\"stride\":16\x7d\x7d\x7d").toUTF8.toList :=
    ⟨[], _, [], blank_nil, blank_nil, writesObject, by rw [toList_toUTF8]; rfl⟩
  have ofItems : Documents items
      "\x7b\"monitor\":\x7b\"layout\":[16],\"period\":7\x7d\x7d".toUTF8.toList :=
    ⟨[], _, [], blank_nil, blank_nil, writesItems, by rw [toList_toUTF8]; rfl⟩
  have ofOutside : Documents outside
      "\x7b\"monitor\":\x7b\"period\":4294967296\x7d\x7d".toUTF8.toList :=
    ⟨[], _, [], blank_nil, blank_nil, writesOutside, by rw [toList_toUTF8]; rfl⟩
  have alike : MonitorSettings.DocumentAlike object items := by
    refine .trans (.unknown x.content?_pieces (by decide) _ _) (.member monitor.content?_pieces
      monitor.content?_pieces (.trans (.order (.swap _ _ _)) (.member layout.content?_pieces
        layout.content?_pieces (.inr (.inl ⟨rfl, .symm (.list (by decide) ?_)⟩)) _)) _)
    simp [Layout.keys]
  obtain ⟨reads, -, readsAlike, -⟩ := documents_overlay_standard ofObject
  obtain ⟨-, -, -, refuses⟩ := documents_overlay_standard ofOutside
  have meant : MonitorSettings.ofDocumentTree? object =
      some { MonitorSettings.standard with period := 7, layout := ⟨16, 4⟩ } := by
    have whole : Tree.natural? word32Max (.number seven) = some 7 := rfl
    have length : Tree.natural? word64Max (.number sixteen) = some 16 := rfl
    simp [object, stated, sized, MonitorSettings.ofDocumentTree?, MonitorSettings.documentKeys,
      MonitorSettings.ofTree?, MonitorSettings.keys, Layout.ofTree?, Layout.keys, Tree.given?,
      knownMembers, valueOr, Layout.standard, Option.filter, List.lookup_cons, whole, length]
  have unsigned : MonitorSettings.UnsignedAt outside word32Max (.number tooLarge) := by
    refine @MonitorSettings.UnsignedAt.settings _ "period" _ _ (by decide) ?_
    simp [outside, MonitorSettings.section?, MonitorSettings.documentKeys, MonitorSettings.keys,
      Tree.field?, Tree.given?, knownMembers, Option.filter]
  have read := reads _ meant
  exact ⟨object, items, outside, _, _, _, _, rfl, rfl, rfl, rfl, ofObject, ofItems, ofOutside, alike,
    read, ((readsAlike _ _ alike ofItems).2 _ meant).trans read,
    refuses word32Max tooLarge unsigned ⟨rfl, .inr (by decide)⟩⟩

end HitMonitor
