import HitMonitor.Proofs.Json.Meaning

/-!
# Records that overlay their start

What a record means is said by the fields it gives: those that are there replace what the record
started from, and the others keep it.  Neither the order of the members nor those that the record
does not know have a part in this, and a list of items gives the fields at its places.  A reader goes
through a text from left to right instead.  Both come to the same because fields that differ can be
replaced in either order.
-/

namespace HitMonitor.Json

variable {Partial : Type}

/-! ## What is given -/

/-- The members that have one of some keys, by their names. -/
def knownMembers (keys : List String) (members : List (List Piece × Tree)) :
    List (String × Tree) :=
  members.filterMap fun (key, tree) =>
    ((content? key).filter (· ∈ keys)).map fun name => (name, tree)

/-- The fields that a record with some keys is given.  Each member of an object needs a key that is a
text, and a known key comes once; a list has no more items than there are fields. -/
def Tree.given? (keys : List String) : Tree → Option (List (String × Tree))
  | .object members =>
      if (∀ member ∈ members, (content? member.1).isSome) ∧
          ((knownMembers keys members).map Prod.fst).Nodup then
        some (knownMembers keys members)
      else none
  | .list items => if items.length ≤ keys.length then some (keys.zip items) else none
  | _ => none

/-- The tree that a record with some keys is given at one of them. -/
def Tree.field? (keys : List String) (key : String) (tree : Tree) : Option Tree :=
  (tree.given? keys).bind (·.lookup key)

/-- What the values of a field mean, and how they change a partial result. -/
structure FieldMeaning (Partial : Type) where
  key : String
  Value : Type
  meaning : Tree → Option Value
  set : Value → Partial → Partial

namespace FieldMeaning

/-- The partial result with the value of one field. -/
def change? (field : FieldMeaning Partial) (tree : Tree) (result : Partial) : Option Partial :=
  (field.meaning tree).map (field.set · result)

/-- Fields whose values do not get in each other's way. -/
def Commutes (left right : FieldMeaning Partial) : Prop :=
  ∀ leftValue rightValue result,
    left.set leftValue (right.set rightValue result) =
      right.set rightValue (left.set leftValue result)

/-- The partial result with the value of one field if it is given. -/
def step (field : FieldMeaning Partial) (given : List (String × Tree)) (result : Partial) :
    Option Partial :=
  match given.lookup field.key with
  | some tree => field.change? tree result
  | none => some result

end FieldMeaning

/-- A partial result with the values of all fields that are given. -/
def overlay (given : List (String × Tree)) : List (FieldMeaning Partial) → Partial →
    Option Partial
  | [], result => some result
  | field :: fields, result => (field.step given result).bind (overlay given fields)

/-- A record from what is given: all fields or, if not every one is needed, some of them. -/
def overlaid? (needsAll : Bool) (fields : List (FieldMeaning Partial)) (start : Partial)
    (given : List (String × Tree)) : Option Partial :=
  if needsAll = true → ∀ field ∈ fields, (given.lookup field.key).isSome then
    overlay given fields start
  else none

/-! ## One field after the other -/

variable {fields : List (FieldMeaning Partial)} {given other : List (String × Tree)}

theorem lookup_cons_of_ne {key name : String} (differs : key ≠ name) (tree : Tree)
    (given : List (String × Tree)) :
    ((name, tree) :: given).lookup key = given.lookup key := by
  rw [List.lookup_cons, beq_eq_false_iff_ne.mpr differs]

theorem overlay_nil (fields : List (FieldMeaning Partial)) (result : Partial) :
    overlay [] fields result = some result := by
  induction fields with
  | nil => rfl
  | cons field fields ih => exact ih

/-- A record that needs no field is what is given, laid over the start. -/
theorem overlaid?_false (fields : List (FieldMeaning Partial)) (start : Partial)
    (given : List (String × Tree)) :
    overlaid? false fields start given = overlay given fields start :=
  if_pos fun needed => absurd needed Bool.false_ne_true

/-- What is given counts only by what it means. -/
theorem step_congr {field : FieldMeaning Partial}
    (same : (given.lookup field.key).map field.meaning =
      (other.lookup field.key).map field.meaning) (result : Partial) :
    field.step given result = field.step other result := by
  unfold FieldMeaning.step FieldMeaning.change?
  cases left : given.lookup field.key with
  | none =>
      cases right : other.lookup field.key with
      | none => rfl
      | some => simp [left, right] at same
  | some tree =>
      cases right : other.lookup field.key with
      | none => simp [left, right] at same
      | some otherTree =>
          simp only [left, right, Option.map_some, Option.some.injEq] at same
          simp only [same]

theorem overlay_congr (same : ∀ field ∈ fields, (given.lookup field.key).map field.meaning =
    (other.lookup field.key).map field.meaning) (result : Partial) :
    overlay given fields result = overlay other fields result := by
  induction fields generalizing result with
  | nil => rfl
  | cons field fields ih =>
      rw [List.forall_mem_cons] at same
      simp only [overlay, step_congr same.1, funext (ih same.2)]

theorem overlaid?_congr (same : ∀ field ∈ fields, (given.lookup field.key).map field.meaning =
    (other.lookup field.key).map field.meaning) (needsAll : Bool) (start : Partial) :
    overlaid? needsAll fields start given = overlaid? needsAll fields start other := by
  have complete : (∀ field ∈ fields, (given.lookup field.key).isSome) ↔
      ∀ field ∈ fields, (other.lookup field.key).isSome := by
    refine forall₂_congr fun field member => ?_
    rw [← Option.isSome_map (f := field.meaning), same field member, Option.isSome_map]
  simp only [overlaid?, complete, overlay_congr same]

theorem step_set {left right : FieldMeaning Partial} (commutes : left.Commutes right)
    (given : List (String × Tree)) (value : right.Value) (result : Partial) :
    left.step given (right.set value result) = (left.step given result).map (right.set value) := by
  unfold FieldMeaning.step FieldMeaning.change?
  cases given.lookup left.key with
  | none => rfl
  | some tree =>
      rw [Option.map_map]
      exact congrArg (fun set => (left.meaning tree).map set)
        (funext fun leftValue => commutes leftValue value result)

/-- A field that is given a tree without a meaning leaves nothing of the record. -/
theorem overlay_eq_none {field : FieldMeaning Partial} (member : field ∈ fields) {tree : Tree}
    (found : given.lookup field.key = some tree) (refused : field.meaning tree = none)
    (result : Partial) : overlay given fields result = none := by
  induction fields generalizing result with
  | nil => cases member
  | cons first fields ih =>
      rw [overlay]
      rcases List.mem_cons.mp member with rfl | inside
      · simp [FieldMeaning.step, FieldMeaning.change?, found, refused]
      · rw [Option.bind_eq_none_iff]
        exact fun next _ => ih inside next

/-- A field that is given besides others may be taken before them. -/
theorem overlay_cons {field : FieldMeaning Partial} (member : field ∈ fields)
    (distinct : (fields.map (·.key)).Nodup) (commute : fields.Pairwise (·.Commutes ·))
    (fresh : given.lookup field.key = none) (tree : Tree) (result : Partial) :
    overlay ((field.key, tree) :: given) fields result =
      (field.change? tree result).bind (overlay given fields) := by
  induction fields generalizing result with
  | nil => cases member
  | cons first fields ih =>
      rw [List.map_cons, List.nodup_cons] at distinct
      rw [List.pairwise_cons] at commute
      have differs (other : FieldMeaning Partial) (inside : other ∈ fields) :
          first.key ≠ other.key := fun same => distinct.1 (same ▸ List.mem_map_of_mem inside)
      rcases List.mem_cons.mp member with rfl | inside
      · have behind (result : Partial) :
            overlay ((field.key, tree) :: given) fields result = overlay given fields result :=
          overlay_congr (fun other member => by
            rw [lookup_cons_of_ne (differs other member).symm]) result
        have kept (result : Partial) : field.step given result = some result := by
          rw [FieldMeaning.step, fresh]
        have stepped : field.step ((field.key, tree) :: given) result =
            field.change? tree result := by
          rw [FieldMeaning.step, List.lookup_cons_self]
        simp only [overlay, stepped, funext behind, kept, Option.bind_some]
      · have stepped : first.step ((field.key, tree) :: given) result = first.step given result := by
          rw [FieldMeaning.step, lookup_cons_of_ne (differs field inside), FieldMeaning.step]
        simp only [overlay, stepped, FieldMeaning.change?, funext (ih inside distinct.2 commute.2)]
        cases field.meaning tree with
        | none => simp
        | some value =>
            simp only [Option.map_some, Option.bind_some,
              step_set (commute.1 field inside), Option.bind_map]
            rfl

/-! ## Members -/

/-- Take the members of an object into a partial result one by one.  The keys of the known ones taken
so far are in `seen`. -/
def takeMembers (needsAll : Bool) (fields : List (FieldMeaning Partial)) :
    (seen : List String) → Partial → List (List Piece × Tree) → Option Partial
  | seen, result, [] =>
      if needsAll = true → ∀ field ∈ fields, field.key ∈ seen then some result else none
  | seen, result, (key, tree) :: members =>
      (content? key).bind fun name =>
        match fields.find? (·.key == name) with
        | some field =>
            if name ∈ seen then none
            else (field.change? tree result).bind fun result =>
              takeMembers needsAll fields (name :: seen) result members
        | none => takeMembers needsAll fields seen result members

theorem knownMembers_cons_of_mem {keys : List String} {key : List Piece} {name : String}
    (named : content? key = some name) (known : name ∈ keys) (tree : Tree)
    (members : List (List Piece × Tree)) :
    knownMembers keys ((key, tree) :: members) = (name, tree) :: knownMembers keys members := by
  simp [knownMembers, Option.filter, named, known]

theorem knownMembers_cons_of_not_mem {keys : List String} {key : List Piece} {name : String}
    (named : content? key = some name) (unknown : name ∉ keys) (tree : Tree)
    (members : List (List Piece × Tree)) :
    knownMembers keys ((key, tree) :: members) = knownMembers keys members := by
  simp [knownMembers, Option.filter, named, unknown]

theorem isSome_lookup_iff {key : String} :
    (given.lookup key).isSome ↔ key ∈ given.map Prod.fst := by
  rw [List.lookup_isSome_iff, List.mem_map]
  simp only [beq_iff_eq, @eq_comm _ key]

theorem lookup_eq_none_of_not_mem {key : String} (absent : key ∉ given.map Prod.fst) :
    given.lookup key = none := by
  rwa [← isSome_lookup_iff, Option.not_isSome_iff_eq_none] at absent

/-- What lets an object be taken as a record: every key is a text, no known one comes twice and none
is missing. -/
structure Admitted (needsAll : Bool) (fields : List (FieldMeaning Partial)) (seen : List String)
    (members : List (List Piece × Tree)) : Prop where
  named : ∀ member ∈ members, (content? member.1).isSome
  distinct : ((knownMembers (fields.map (·.key)) members).map Prod.fst).Nodup
  fresh : ∀ name ∈ (knownMembers (fields.map (·.key)) members).map Prod.fst, name ∉ seen
  complete : needsAll = true → ∀ field ∈ fields,
    field.key ∈ (knownMembers (fields.map (·.key)) members).map Prod.fst ∨ field.key ∈ seen

variable {needsAll : Bool} {seen : List String} {members : List (List Piece × Tree)}

theorem admitted_nil :
    Admitted needsAll fields seen [] ↔ (needsAll = true → ∀ field ∈ fields, field.key ∈ seen) := by
  constructor
  · exact fun admitted needed field member =>
      (admitted.complete needed field member).resolve_left List.not_mem_nil
  · exact fun complete =>
      { named := fun _ impossible => by cases impossible
        distinct := List.nodup_nil
        fresh := fun _ impossible => by cases impossible
        complete := fun needed field member => .inr (complete needed field member) }

theorem admitted_cons_of_not_mem {key : List Piece} {name : String}
    (named : content? key = some name) (unknown : name ∉ fields.map (·.key)) (tree : Tree) :
    Admitted needsAll fields seen ((key, tree) :: members) ↔
      Admitted needsAll fields seen members := by
  have skipped := knownMembers_cons_of_not_mem named unknown tree members
  constructor
  · rintro ⟨named, distinct, fresh, complete⟩
    rw [skipped] at distinct fresh complete
    exact ⟨(List.forall_mem_cons.mp named).2, distinct, fresh, complete⟩
  · intro admitted
    refine ⟨List.forall_mem_cons.mpr ⟨by simp [named], admitted.named⟩, ?_, ?_, ?_⟩
    · rw [skipped]
      exact admitted.distinct
    · rw [skipped]
      exact admitted.fresh
    · rw [skipped]
      exact admitted.complete

theorem admitted_cons_of_mem {key : List Piece} {name : String}
    (named : content? key = some name) (known : name ∈ fields.map (·.key)) (tree : Tree) :
    Admitted needsAll fields seen ((key, tree) :: members) ↔
      name ∉ seen ∧ Admitted needsAll fields (name :: seen) members := by
  have taken := knownMembers_cons_of_mem named known tree members
  constructor
  · rintro ⟨named, distinct, fresh, complete⟩
    rw [taken, List.map_cons] at distinct fresh complete
    rw [List.nodup_cons] at distinct
    rw [List.forall_mem_cons] at fresh
    refine ⟨fresh.1, (List.forall_mem_cons.mp named).2, distinct.2, fun other member => ?_,
      fun needed field member => ?_⟩
    · rw [List.mem_cons, not_or]
      exact ⟨fun same => distinct.1 (same ▸ member), fresh.2 other member⟩
    · have found := complete needed field member
      rw [List.mem_cons] at found ⊢
      exact or_left_comm.mp (or_assoc.mp found)
  · rintro ⟨unseen, admitted⟩
    have fresh := admitted.fresh
    simp only [List.mem_cons, not_or] at fresh
    refine ⟨List.forall_mem_cons.mpr ⟨by simp [named], admitted.named⟩, ?_, ?_, ?_⟩
    · rw [taken, List.map_cons, List.nodup_cons]
      exact ⟨fun member => (fresh name member).1 rfl, admitted.distinct⟩
    · rw [taken, List.map_cons, List.forall_mem_cons]
      exact ⟨unseen, fun other member => (fresh other member).2⟩
    · rw [taken, List.map_cons]
      intro needed field member
      have found := admitted.complete needed field member
      rw [List.mem_cons] at found ⊢
      exact or_assoc.mpr (or_left_comm.mp found)

/-- Taking the members in the order of the document comes to the same as taking the fields in theirs.
The induction is on the members, and each of them is taken before all others. -/
theorem takeMembers_eq_some_iff (distinct : (fields.map (·.key)).Nodup)
    (commute : fields.Pairwise (·.Commutes ·)) {result final : Partial} :
    takeMembers needsAll fields seen result members = some final ↔
      Admitted needsAll fields seen members ∧
        overlay (knownMembers (fields.map (·.key)) members) fields result = some final := by
  induction members generalizing seen result with
  | nil =>
      rw [takeMembers, Option.ite_none_right_eq_some, admitted_nil]
      refine and_congr_right' ?_
      rw [show knownMembers (fields.map (·.key)) [] = [] from rfl, overlay_nil]
  | cons member members ih =>
      obtain ⟨key, tree⟩ := member
      rw [takeMembers]
      cases named : content? key with
      | none =>
          constructor
          · intro impossible
            cases impossible
          · rintro ⟨admitted, -⟩
            have text := admitted.named _ List.mem_cons_self
            rw [named] at text
            cases text
      | some name =>
          rw [Option.bind_some]
          cases found : fields.find? (·.key == name) with
          | none =>
              have unknown : name ∉ fields.map (·.key) := by
                simpa [List.find?_eq_none] using found
              rw [admitted_cons_of_not_mem named unknown,
                knownMembers_cons_of_not_mem named unknown]
              exact ih
          | some field =>
              have same : field.key = name := by simpa using List.find?_some found
              have member : field ∈ fields := List.mem_of_find?_eq_some found
              subst same
              have known : field.key ∈ fields.map (·.key) := List.mem_map_of_mem member
              rw [admitted_cons_of_mem named known, knownMembers_cons_of_mem named known]
              by_cases seen_key : field.key ∈ seen
              · simp [seen_key]
              · -- The key comes in none of the members behind, so its field can be taken first.
                have first (admitted : Admitted needsAll fields (field.key :: seen) members) :=
                  overlay_cons member distinct commute (lookup_eq_none_of_not_mem fun later =>
                    admitted.fresh _ later List.mem_cons_self) tree result
                simp only [if_neg seen_key, Option.bind_eq_some_iff]
                constructor
                · rintro ⟨next, changed, read⟩
                  obtain ⟨admitted, behind⟩ := ih.mp read
                  rw [first admitted, changed]
                  exact ⟨⟨seen_key, admitted⟩, behind⟩
                · rintro ⟨⟨-, admitted⟩, taken⟩
                  rw [first admitted, Option.bind_eq_some_iff] at taken
                  obtain ⟨next, changed, behind⟩ := taken
                  exact ⟨next, changed, ih.mpr ⟨admitted, behind⟩⟩

/-- An object gives its known members. -/
theorem takeMembers_eq (distinct : (fields.map (·.key)).Nodup)
    (commute : fields.Pairwise (·.Commutes ·)) (needsAll : Bool) (start : Partial)
    (members : List (List Piece × Tree)) :
    takeMembers needsAll fields [] start members =
      ((Tree.object members).given? (fields.map (·.key))).bind
        (overlaid? needsAll fields start) := by
  ext final
  rw [takeMembers_eq_some_iff distinct commute]
  simp only [Tree.given?, overlaid?, Option.bind_eq_some_iff, Option.ite_none_right_eq_some,
    Option.some.injEq, isSome_lookup_iff]
  constructor
  · rintro ⟨admitted, taken⟩
    exact ⟨_, ⟨⟨admitted.named, admitted.distinct⟩, rfl⟩, fun needed field member =>
      (admitted.complete needed field member).resolve_right List.not_mem_nil, taken⟩
  · rintro ⟨_, ⟨⟨named, distinct⟩, rfl⟩, complete, taken⟩
    exact ⟨⟨named, distinct, fun _ _ => List.not_mem_nil, fun needed field member =>
      .inl (complete needed field member)⟩, taken⟩

/-! ## Items -/

/-- Take the items of a list into the fields of a record. -/
def takeItems (needsAll : Bool) : List (FieldMeaning Partial) → Partial → List Tree →
    Option Partial
  | [], result, [] => some result
  | [], _, _ :: _ => none
  | _ :: _, result, [] => if needsAll then none else some result
  | field :: fields, result, item :: items =>
      (field.change? item result).bind fun result => takeItems needsAll fields result items

/-- Nothing is given of at least one field. -/
theorem overlaid?_nil (field : FieldMeaning Partial) (needsAll : Bool) (start : Partial) :
    overlaid? needsAll (field :: fields) start [] = if needsAll then none else some start := by
  unfold overlaid?
  cases needsAll with
  | false => rw [if_pos (fun needed => nomatch needed), overlay_nil, if_neg Bool.false_ne_true]
  | true =>
      rw [if_neg (fun complete => nomatch complete rfl field List.mem_cons_self), if_pos rfl]

/-- The first field is taken before the others, which look at the rest of what is given. -/
theorem overlaid?_cons {field : FieldMeaning Partial} (fresh : field.key ∉ fields.map (·.key))
    (needsAll : Bool) (tree : Tree) (start : Partial) :
    overlaid? needsAll (field :: fields) start ((field.key, tree) :: given) =
      (field.change? tree start).bind fun result => overlaid? needsAll fields result given := by
  have behind (other : FieldMeaning Partial) (member : other ∈ fields) :
      ((field.key, tree) :: given).lookup other.key = given.lookup other.key := by
    refine lookup_cons_of_ne (fun same => fresh ?_) ..
    rw [← same]
    exact List.mem_map_of_mem member
  have complete : (∀ other ∈ field :: fields,
        (((field.key, tree) :: given).lookup other.key).isSome) ↔
      ∀ other ∈ fields, (given.lookup other.key).isSome := by
    rw [List.forall_mem_cons, List.lookup_cons_self]
    simp +contextual [behind]
  have stepped : field.step ((field.key, tree) :: given) start = field.change? tree start := by
    rw [FieldMeaning.step, List.lookup_cons_self]
  simp only [overlaid?, complete]
  split
  next =>
    simp only [overlay, stepped, funext (overlay_congr fun other member =>
      congrArg (Option.map other.meaning) (behind other member))]
  next => simp

/-- A list gives the fields at the places of its items. -/
theorem takeItems_eq (distinct : (fields.map (·.key)).Nodup) (needsAll : Bool) (start : Partial)
    (items : List Tree) :
    takeItems needsAll fields start items =
      ((Tree.list items).given? (fields.map (·.key))).bind
        (overlaid? needsAll fields start) := by
  induction fields generalizing start items with
  | nil =>
      cases items with
      | nil => simp [takeItems, Tree.given?, overlaid?, overlay]
      | cons item items => simp [takeItems, Tree.given?]
  | cons field fields ih =>
      rw [List.map_cons, List.nodup_cons] at distinct
      cases items with
      | nil => simp [takeItems, Tree.given?, overlaid?_nil]
      | cons item items =>
          simp only [takeItems, ih distinct.2, Tree.given?, List.length_cons, List.map_cons,
            Nat.add_le_add_iff_right, List.zip_cons_cons]
          split
          next => simp only [Option.bind_some, overlaid?_cons distinct.1]
          next => simp

end HitMonitor.Json
