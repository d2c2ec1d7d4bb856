import HitMonitor.Proofs.Json.Overlay
import Mathlib.Data.List.Perm.Basic

/-!
# Documents that differ in what does not matter

The same fields can be given in many ways: as members in any order, among members that the record
does not know, with keys that are spelled otherwise, or as the items of a list.  Trees that can be
turned into each other in these ways mean the same record.
-/

namespace HitMonitor.Json

/-- Trees that give the same fields of a record with some keys.  At a key there may be trees that are
taken for each other as well. -/
inductive Alike (keys : List String) (inner : String → Tree → Tree → Prop) : Tree → Tree → Prop
  | refl (tree : Tree) : Alike keys inner tree tree
  | symm {tree other : Tree} (alike : Alike keys inner tree other) : Alike keys inner other tree
  | trans {tree middle other : Tree} (front : Alike keys inner tree middle)
      (behind : Alike keys inner middle other) : Alike keys inner tree other
  /-- Members stand in any order. -/
  | order {members others : List (List Piece × Tree)} (perm : members.Perm others) :
      Alike keys inner (.object members) (.object others)
  /-- A member that the record does not know is left out. -/
  | unknown {key : List Piece} {name : String} (named : content? key = some name)
      (foreign : name ∉ keys) (tree : Tree) (members : List (List Piece × Tree)) :
      Alike keys inner (.object ((key, tree) :: members)) (.object members)
  /-- A key is spelled otherwise, and a tree is taken for another one. -/
  | member {key otherKey : List Piece} {name : String} {tree other : Tree}
      (named : content? key = some name) (otherNamed : content? otherKey = some name)
      (same : inner name tree other) (members : List (List Piece × Tree)) :
      Alike keys inner (.object ((key, tree) :: members)) (.object ((otherKey, other) :: members))
  /-- Items stand at the places of their fields. -/
  | list {items : List Tree} {members : List (List Piece × Tree)}
      (short : items.length ≤ keys.length)
      (named : members.map (fun (key, tree) => (content? key, tree)) =
        (keys.zip items).map fun (name, tree) => (some name, tree)) :
      Alike keys inner (.list items) (.object members)

variable {Partial : Type} {fields : List (FieldMeaning Partial)}

/-! ## What is given -/

theorem lookup_perm {given other : List (String × Tree)} (perm : given.Perm other)
    (distinct : (given.map Prod.fst).Nodup) (key : String) :
    given.lookup key = other.lookup key := by
  induction perm with
  | nil => rfl
  | cons member perm ih =>
      obtain ⟨name, tree⟩ := member
      rw [List.map_cons, List.nodup_cons] at distinct
      rw [List.lookup_cons, List.lookup_cons, ih distinct.2]
  | swap first second given =>
      obtain ⟨name, tree⟩ := first
      obtain ⟨otherName, otherTree⟩ := second
      simp only [List.map_cons, List.nodup_cons, List.mem_cons, not_or] at distinct
      by_cases first : key = name
      · rw [first, List.lookup_cons_self, lookup_cons_of_ne fun same => distinct.1.1 same.symm,
          List.lookup_cons_self]
      · rw [List.lookup_cons, lookup_cons_of_ne first, lookup_cons_of_ne first, List.lookup_cons]
  | trans front behind ihFront ihBehind =>
      rw [ihFront distinct, ihBehind ((front.map Prod.fst).nodup_iff.mp distinct)]

/-- The names of items are names of fields, each of which comes once. -/
theorem map_fst_zip_of_length_le {keys : List String} {items : List Tree}
    (short : items.length ≤ keys.length) :
    (keys.zip items).map Prod.fst = keys.take items.length := by
  rw [List.zip_eq_zip_take_min, Nat.min_eq_right short, List.map_fst_zip]
  simp [short]

/-- Items give the fields at their places even if they stand in an object. -/
theorem knownMembers_of_named {keys : List String} {items : List Tree}
    {members : List (List Piece × Tree)}
    (named : members.map (fun (key, tree) => (content? key, tree)) =
      (keys.zip items).map fun (name, tree) => (some name, tree)) :
    knownMembers keys members = keys.zip items := by
  have renamed : knownMembers keys members =
      (members.map fun (key, tree) => (content? key, tree)).filterMap fun (name?, tree) =>
        (name?.filter (· ∈ keys)).map fun name => (name, tree) := by
    rw [List.filterMap_map]
    rfl
  rw [renamed, named, List.filterMap_map]
  refine (List.filterMap_congr fun member inside => ?_).trans List.filterMap_some
  obtain ⟨name, tree⟩ := member
  simp [Option.filter, (List.of_mem_zip inside).1]

theorem given?_order (keys : List String) {members others : List (List Piece × Tree)}
    (perm : members.Perm others) :
    ((Tree.object members).given? keys = none ∧ (Tree.object others).given? keys = none) ∨
    ∃ given other, (Tree.object members).given? keys = some given ∧
      (Tree.object others).given? keys = some other ∧ given.Perm other ∧
      (given.map Prod.fst).Nodup := by
  have known : (knownMembers keys members).Perm (knownMembers keys others) := perm.filterMap _
  have named : (∀ member ∈ members, (content? member.1).isSome) ↔
      ∀ member ∈ others, (content? member.1).isSome := by simp only [perm.mem_iff]
  have distinct := (known.map Prod.fst).nodup_iff
  simp only [Tree.given?, named, distinct]
  split
  next accepted => exact .inr ⟨_, _, rfl, rfl, known, distinct.mpr accepted.2⟩
  next => exact .inl ⟨rfl, rfl⟩

/-- Items give what they would give as members with the names of their fields. -/
theorem given?_list {keys : List String} (distinct : keys.Nodup) {items : List Tree}
    {members : List (List Piece × Tree)} (short : items.length ≤ keys.length)
    (named : members.map (fun (key, tree) => (content? key, tree)) =
      (keys.zip items).map fun (name, tree) => (some name, tree)) :
    (Tree.list items).given? keys = (Tree.object members).given? keys := by
  have texts : ∀ member ∈ members, (content? member.1).isSome := by
    intro member inside
    have listed := List.mem_map_of_mem (f := fun (key, tree) => (content? key, tree)) inside
    rw [named, List.mem_map] at listed
    obtain ⟨⟨name, tree⟩, -, same⟩ := listed
    rw [← (Prod.mk.inj same).1]
    rfl
  have known := knownMembers_of_named named
  have names : ((knownMembers keys members).map Prod.fst).Nodup := by
    rw [known, map_fst_zip_of_length_le short]
    exact distinct.sublist (List.take_sublist _ _)
  simp only [Tree.given?, if_pos short, if_pos (And.intro texts names)]
  rw [known]

/-- Trees that are alike mean the same record. -/
theorem overlaid?_of_alike (distinct : (fields.map (·.key)).Nodup)
    {inner : String → Tree → Tree → Prop}
    (respected : ∀ field ∈ fields, ∀ tree other, inner field.key tree other →
      field.meaning tree = field.meaning other)
    (needsAll : Bool) (start : Partial) {tree other : Tree}
    (alike : Alike (fields.map (·.key)) inner tree other) :
    (tree.given? (fields.map (·.key))).bind (overlaid? needsAll fields start) =
      (other.given? (fields.map (·.key))).bind (overlaid? needsAll fields start) := by
  induction alike with
  | refl => rfl
  | symm _ ih => exact ih.symm
  | trans _ _ ihFront ihBehind => exact ihFront.trans ihBehind
  | order perm =>
      rcases given?_order (fields.map (·.key)) perm with
        ⟨left, right⟩ | ⟨given, other, left, right, perm, names⟩
      · rw [left, right]
      · rw [left, right]
        exact overlaid?_congr (fun field _ => by rw [lookup_perm perm names]) needsAll start
  | unknown named foreign tree members =>
      simp only [Tree.given?, List.forall_mem_cons, named, Option.isSome_some, true_and,
        knownMembers_cons_of_not_mem named foreign]
  | @member key otherKey name tree other named otherNamed same members =>
      by_cases known : name ∈ fields.map (·.key)
      · simp only [Tree.given?, List.forall_mem_cons, named, otherNamed, Option.isSome_some,
          true_and, knownMembers_cons_of_mem named known, knownMembers_cons_of_mem otherNamed known,
          List.map_cons]
        split
        next =>
          refine overlaid?_congr (fun field member => ?_) needsAll start
          by_cases here : field.key = name
          · subst here
            rw [List.lookup_cons_self, List.lookup_cons_self, Option.map_some, Option.map_some,
              respected field member tree other same]
          · rw [lookup_cons_of_ne here, lookup_cons_of_ne here]
        next => rfl
      · simp only [Tree.given?, List.forall_mem_cons, named, otherNamed, Option.isSome_some,
          true_and, knownMembers_cons_of_not_mem named known,
          knownMembers_cons_of_not_mem otherNamed known]
  | list short named => rw [given?_list distinct short named]

end HitMonitor.Json
