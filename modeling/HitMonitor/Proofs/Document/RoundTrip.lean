import HitMonitor.Proofs.Document.Settings
import HitMonitor.Proofs.Grid.Order
import HitMonitor.Proofs.Json.RoundTrip

/-!
# Documents of the domain read back

Each form is written member by member in the order of its record, so the record is read back field
by field.  A grid is written without what makes it one and has to be accepted again.
-/

namespace HitMonitor

open Json

/-- A document without blanks is read as the value it was written for. -/
def ReadsBack {Value : Type} (read : Bytes → Except JsonError (Value × Bytes)) (document : Json)
    (value : Value) : Prop :=
  readDocument read document.compact.toUTF8.toList = .ok value

theorem readsBack_of_reads {Value : Type} {read : Bytes → Except JsonError (Value × Bytes)}
    {document : Json} {value : Value} (reads : Reads read document.bytes value) :
    ReadsBack read document value := by
  rw [ReadsBack, toList_toUTF8_compact]
  exact reads.readDocument

/-- A field for an unsigned integer takes what is written for one within its limit. -/
theorem unsignedField_reads {Partial : Type} {key type : String} {limit value : Nat}
    {set : Partial → Nat → Partial} (inside : value ≤ limit) (word : limit ≤ word64Max)
    (result : Partial) :
    Reads ((unsignedField key type limit set).read result) (natural value).bytes
      (set result value) :=
  (reads_unsigned inside word type).map (set result)

namespace Extents

/-- Every extent fits a word. -/
def InWords (extents : Extents) : Prop :=
  extents.x ≤ word64Max ∧ extents.y ≤ word64Max ∧ extents.z ≤ word64Max

theorem wellKeyed : shape.WellKeyed := ⟨by decide, by decide⟩

theorem reads_toJson {extents : Extents} (inWords : extents.InWords) :
    Reads shape.read extents.toJson.bytes extents := by
  apply RecordShape.reads_document wellKeyed
  apply RecordShape.InOrder.field (unsignedField_reads inWords.1 le_rfl _)
  apply RecordShape.InOrder.field (unsignedField_reads inWords.2.1 le_rfl _)
  apply RecordShape.InOrder.field (unsignedField_reads inWords.2.2 le_rfl _)
  exact .done

end Extents

namespace Coordinate

/-- Every coordinate fits a word. -/
def InWords (coordinate : Coordinate) : Prop :=
  coordinate.x ≤ word64Max ∧ coordinate.y ≤ word64Max ∧ coordinate.z ≤ word64Max

theorem wellKeyed : shape.WellKeyed := ⟨by decide, by decide⟩

theorem reads_toJson {coordinate : Coordinate} (inWords : coordinate.InWords) :
    Reads shape.read coordinate.toJson.bytes coordinate := by
  apply RecordShape.reads_document wellKeyed
  apply RecordShape.InOrder.field (unsignedField_reads inWords.1 le_rfl _)
  apply RecordShape.InOrder.field (unsignedField_reads inWords.2.1 le_rfl _)
  apply RecordShape.InOrder.field (unsignedField_reads inWords.2.2 le_rfl _)
  exact .done

end Coordinate

namespace Layout

theorem wellKeyed : shape.WellKeyed := ⟨by decide, by decide⟩

theorem reads_toJson {layout : Layout} (inWords : layout.InWords) :
    Reads shape.read layout.toJson.bytes layout := by
  apply RecordShape.reads_document wellKeyed
  apply RecordShape.InOrder.field (unsignedField_reads inWords.1 le_rfl _)
  apply RecordShape.InOrder.field (unsignedField_reads inWords.2 le_rfl _)
  exact .done

example : Layout.standard.toJson.compact = "\x7b\"stride\":12,\"index_offset\":4\x7d" := by cbv

end Layout

namespace Projection

theorem reads_toJson (projection : Projection) :
    Reads readFrom projection.toJson.bytes projection := by
  cases projection with
  | xy => exact reads_variant (by decide) (by decide)
  | zy => exact reads_variant (by decide) (by decide)
  | xz => exact reads_variant (by decide) (by decide)

end Projection

/-- A pixel index is written as a natural on its own. -/
theorem reads_pixelIndex {index : Nat} (inWord : index ≤ word32Max) :
    Reads readPixelIndex (natural index).bytes index :=
  reads_unsigned inWord word32Max_le_word64Max indexType

namespace Grid

theorem inWords (grid : Grid) : grid.toExtents.InWords := by
  obtain ⟨-, x_le, y_le, z_le⟩ := grid.extents_le
  exact ⟨Nat.le_trans x_le word32Max_le_word64Max, Nat.le_trans y_le word32Max_le_word64Max,
    Nat.le_trans z_le word32Max_le_word64Max⟩

theorem reads_toJson (grid : Grid) : Reads readFrom grid.toExtents.toJson.bytes grid := by
  intro blanks rest blank delimited
  rw [readFrom, Extents.reads_toJson grid.inWords blank delimited]
  simp only [ok_bind, ofExtents_toExtents]
  rfl

end Grid

namespace MonitorSettings

theorem wellKeyed : shape.WellKeyed := ⟨by decide, by decide⟩

theorem documentShape_wellKeyed : documentShape.WellKeyed := ⟨by decide, by decide⟩

/-- The records that are expected, if any are. -/
theorem reads_recordsExpected {expected : Option Nat}
    (inWord : ∀ records ∈ expected, records ≤ word64Max) :
    Reads (readOptional (readUnsigned word64Max sizeType))
      (match expected with
        | some records => natural records
        | none => null).bytes expected := by
  cases expected with
  | none => exact reads_null
  | some records => exact reads_some_natural (reads_unsigned (inWord records rfl) le_rfl sizeType)

theorem reads_toJson {settings : MonitorSettings} (inWords : settings.InWords) :
    Reads shape.read settings.toJson.bytes settings := by
  apply RecordShape.reads_document wellKeyed
  apply RecordShape.InOrder.field
    (settings.grid.reads_toJson.map fun grid => { standard with grid := grid })
  apply RecordShape.InOrder.field
    ((Layout.reads_toJson ⟨inWords.stride, inWords.indexOffset⟩).map fun layout =>
      { standard with grid := settings.grid, layout := layout })
  apply RecordShape.InOrder.field
    ((reads_recordsExpected inWords.recordsExpected).map fun expected =>
      { standard with
        grid := settings.grid, layout := settings.layout, recordsExpected := expected })
  apply RecordShape.InOrder.field
    (unsignedField_reads inWords.period word32Max_le_word64Max _)
  apply RecordShape.InOrder.field (unsignedField_reads inWords.pollWaitMs le_rfl _)
  apply RecordShape.InOrder.field (unsignedField_reads inWords.longestMessage le_rfl _)
  exact .done

/-- The settings in a document of their own, with blanks in front of them. -/
def documentText (settings : MonitorSettings) (blanks : String) : String :=
  "\x7b\"monitor\":" ++ blanks ++ settings.toJson.compact ++ "\x7d"

theorem toList_documentText (settings : MonitorSettings) (blanks : String) :
    (settings.documentText blanks).toUTF8.toList =
      code '\x7b' :: membersBytes true
        [("monitor", blanks.toUTF8.toList ++ settings.toJson.bytes)] := by
  have opening : encode "\x7b\"monitor\":".toList =
      code '\x7b' :: (quotedBytes "monitor" ++ [code ':']) := by decide
  have closing : encode "\x7d".toList = [code '\x7d'] := by decide
  rw [toList_toUTF8, documentText, toList_toUTF8]
  simp only [String.toList_append, encode_append, opening, closing, compact,
    String.toList_ofList, membersBytes, memberBytes, bytes]
  simp

/-- The document is read as the settings, whether a monitor can run with them or not. -/
theorem ofDocument_documentText {settings : MonitorSettings} (inWords : settings.InWords)
    {blanks : String} (blank : Blank blanks.toUTF8.toList) :
    ofDocument (settings.documentText blanks).toUTF8.toList = .ok settings := by
  rw [toList_documentText, ofDocument]
  apply Reads.readDocument
  apply RecordShape.reads_inOrder documentShape_wellKeyed
  apply RecordShape.InOrder.field ((reads_toJson inWords).behind_blanks blank)
  exact .done

theorem ofText_documentText {settings : MonitorSettings} (inWords : settings.InWords)
    {blanks : String} (blank : Blank blanks.toUTF8.toList) :
    ofText (settings.documentText blanks) =
      (settings.validate.mapError .monitor).map fun _ => settings :=
  ofDocumentBytes_of_ok (ofDocument_documentText inWords blank)

end MonitorSettings

/-- Whatever fits its words reads back from the document that is written for it.  Settings in a
document of their own are handed over exactly if a monitor can run with them; otherwise the first
fault is reported. -/
theorem documents_read_back :
    (∀ settings : MonitorSettings, settings.InWords →
      ReadsBack MonitorSettings.shape.read settings.toJson settings ∧
      ∀ blanks : String, Blank blanks.toUTF8.toList →
        (MonitorSettings.ofText (settings.documentText blanks) = .ok settings ↔
          settings.validate = .ok ()) ∧
        ∀ fault, settings.validate = .error fault →
          MonitorSettings.ofText (settings.documentText blanks) = .error (.monitor fault)) ∧
    (∀ grid : Grid, ReadsBack Grid.readFrom grid.toExtents.toJson grid) ∧
    (∀ layout : Layout, layout.InWords → ReadsBack Layout.shape.read layout.toJson layout) ∧
    (∀ index, index ≤ word32Max → ReadsBack readPixelIndex (.natural index) index) ∧
    (∀ coordinate : Coordinate, coordinate.InWords →
      ReadsBack Coordinate.shape.read coordinate.toJson coordinate) ∧
    ∀ projection : Projection, ReadsBack Projection.readFrom projection.toJson projection := by
  refine ⟨?settings, ?grid, ?layout, ?index, ?coordinate, ?projection⟩
  case settings =>
    intro settings inWords
    refine ⟨readsBack_of_reads (MonitorSettings.reads_toJson inWords), fun blanks blank => ?_⟩
    rw [MonitorSettings.ofText_documentText inWords blank]
    constructor
    · rw [map_eq_ok_iff]
      constructor
      · rintro ⟨_, valid, -⟩
        exact mapError_eq_ok_iff.mp valid
      · intro valid
        exact ⟨(), mapError_eq_ok_iff.mpr valid, rfl⟩
    · intro fault found
      rw [found]
      rfl
  case grid =>
    intro grid
    exact readsBack_of_reads grid.reads_toJson
  case layout =>
    intro layout inWords
    exact readsBack_of_reads (Layout.reads_toJson inWords)
  case index =>
    intro index inWord
    exact readsBack_of_reads (reads_pixelIndex inWord)
  case coordinate =>
    intro coordinate inWords
    exact readsBack_of_reads (Coordinate.reads_toJson inWords)
  case projection =>
    intro projection
    exact readsBack_of_reads projection.reads_toJson

/-- Settings with the largest words and a large grid, and settings whose layout does not fit. -/
theorem documents_read_back_widest :
    ∃ grid : Grid, ∃ widest unfit : MonitorSettings,
      widest = ⟨grid, ⟨word64Max, word64Max - 2⟩, none, word32Max, word64Max, word64Max⟩ ∧
      unfit = { widest with layout := ⟨1, word64Max⟩, recordsExpected := some word64Max } ∧
      ReadsBack MonitorSettings.shape.read widest.toJson widest ∧
      MonitorSettings.ofText (widest.documentText " ") = .ok widest ∧
      MonitorSettings.ofText (unfit.documentText "\t\n") =
        .error (.monitor (.record (.badLayout (.fieldOutside ⟨1, word64Max⟩)))) ∧
      ReadsBack Grid.readFrom grid.toExtents.toJson grid ∧
      ReadsBack Layout.shape.read unfit.layout.toJson unfit.layout ∧
      ReadsBack readPixelIndex (.natural word32Max) word32Max ∧
      ReadsBack Coordinate.shape.read (Coordinate.toJson ⟨word64Max, 0, 1⟩) ⟨word64Max, 0, 1⟩ ∧
      ReadsBack Projection.readFrom (Projection.toJson .xz) .xz := by
  let grid : Grid := ⟨⟨65537, 1, 65535⟩, by decide, by decide, by decide, by decide⟩
  let widest : MonitorSettings :=
    ⟨grid, ⟨word64Max, word64Max - 2⟩, none, word32Max, word64Max, word64Max⟩
  let unfit : MonitorSettings :=
    { widest with layout := ⟨1, word64Max⟩, recordsExpected := some word64Max }
  obtain ⟨settings, grids, layouts, indices, coordinates, projections⟩ := documents_read_back
  have widest_inWords : widest.InWords :=
    ⟨by decide, by decide, fun _ impossible => (by cases impossible), by decide, by decide,
      by decide⟩
  have unfit_inWords : unfit.InWords :=
    ⟨by decide, by decide, fun _ same => (by cases same; decide), by decide, by decide, by decide⟩
  have blank : Blank " ".toUTF8.toList := by rw [toList_toUTF8]; decide
  have lines : Blank "\t\n".toUTF8.toList := by rw [toList_toUTF8]; decide
  exact ⟨grid, widest, unfit, rfl, rfl, (settings widest widest_inWords).1,
    ((settings widest widest_inWords).2 " " blank).1.mpr rfl,
    ((settings unfit unfit_inWords).2 "\t\n" lines).2 _ rfl, grids grid,
    layouts unfit.layout ⟨by decide, by decide⟩, indices word32Max le_rfl,
    coordinates ⟨word64Max, 0, 1⟩ ⟨by decide, by decide, by decide⟩, projections .xz⟩

end HitMonitor
