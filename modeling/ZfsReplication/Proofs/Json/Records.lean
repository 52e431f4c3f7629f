import Mathlib
import ZfsReplication.Json.Decode

/-!
# Decoding records that a writer produced

An object whose members have distinct names is decoded as its members in the order it has them: the
map the decoder builds is a permutation of the members (`lastByKey_perm`), so every field is found
where the writer put it (`fieldOr_mapMembers`), and a record whose members are all known fields
that decode gives back its members (`recordFields_obj`). A set of strings reads back as
itself (`decodeStringSet_names`).
-/

set_option autoImplicit false

namespace ZfsReplication.Json

theorem forIn_ok {α ε : Type} {l : List α} {f : α → PUnit → Except ε (ForInStep PUnit)}
    (each : ∀ x ∈ l, f x () = .ok (.yield ())) : forIn l () f = .ok () := by
  induction l with
  | nil => rfl
  | cons x more ih =>
    rw [List.forIn_cons, each x List.mem_cons_self]
    exact ih fun y member => each y (List.mem_cons_of_mem x member)

section Keys

variable {α : Type}

theorem lookup_eq_some_iff_mem {entries : List (String × α)} (distinct : (entries.map (·.1)).Nodup)
    {k : String} {v : α} : entries.lookup k = some v ↔ (k, v) ∈ entries := by
  induction entries with
  | nil => simp
  | cons e more ih =>
    obtain ⟨k', v'⟩ := e
    obtain ⟨fresh, distinct'⟩ := List.nodup_cons.1 distinct
    by_cases same : k = k'
    · subst same
      have notLater : (k, v) ∉ more := fun member => fresh (List.mem_map.2 ⟨_, member, rfl⟩)
      simp [notLater, eq_comm]
    · have other : (k == k') = false := by simpa using same
      simp [List.lookup_cons, other, same, ih distinct']

theorem lookup_perm {entries entries' : List (String × α)} (perm : entries.Perm entries')
    (distinct : (entries.map (·.1)).Nodup) (k : String) : entries.lookup k = entries'.lookup k := by
  have distinct' : (entries'.map (·.1)).Nodup := (perm.map _).nodup_iff.1 distinct
  apply Option.ext
  intro v
  rw [lookup_eq_some_iff_mem distinct, lookup_eq_some_iff_mem distinct', perm.mem_iff]

/-- Keeping the first of equal keys, newest first, changes nothing when no key repeats. -/
theorem foldl_keepFirst {entries acc : List (String × α)}
    (distinct : (entries.map (·.1) ++ acc.map (·.1)).Nodup) :
    entries.foldl (fun acc m => if acc.any (·.1 == m.1) then acc else m :: acc) acc =
      entries.reverse ++ acc := by
  induction entries generalizing acc with
  | nil => simp
  | cons e more ih =>
    have fresh : acc.any (·.1 == e.1) = false := by
      simp only [List.any_eq_false, beq_iff_eq]
      intro m member same
      have := List.nodup_cons.1 distinct
      exact this.1 (List.mem_append_right _ (List.mem_map.2 ⟨m, member, same⟩))
    have distinct' : (more.map (·.1) ++ (e :: acc).map (·.1)).Nodup := by
      simpa [List.nodup_middle] using distinct
    simp [fresh, ih distinct']

theorem lastByKey_perm {entries : List (String × α)} (distinct : (entries.map (·.1)).Nodup) :
    (lastByKey entries).Perm entries := by
  have reversed : (entries.reverse.map (·.1) ++ ([] : List (String × α)).map (·.1)).Nodup := by
    simpa [List.map_reverse] using distinct
  have kept := foldl_keepFirst reversed
  simp only [List.reverse_reverse, List.append_nil] at kept
  simp only [lastByKey, kept]
  exact List.mergeSort_perm _ _

end Keys

theorem fieldOr_mapMembers {members : List (String × Json)} (distinct : (members.map (·.1)).Nodup)
    {β : Type} (name : String) (d : Decoder β) (default : β) :
    fieldOr (mapMembers members) name d default = fieldOr members name d default := by
  have perm := lastByKey_perm distinct
  simp only [fieldOr, mapMembers, lookup_perm perm ((perm.map _).nodup_iff.2 distinct) name]

/-- An object whose members are all known fields with values that decode, and that holds every
field that may not be left out, gives its members as a map. -/
theorem recordFields_obj {extraItems : Bool} {record : String} {fields : List FieldSpec}
    {check : String → Json → Except DecodeError Unit} {members : List (String × Json)}
    (distinct : (members.map (·.1)).Nodup)
    (known : ∀ m ∈ members, fields.any (·.name == m.1) = true ∧ check m.1 m.2 = .ok ())
    (required : ∀ f ∈ fields, f.optional = false → f.name ∈ members.map (·.1)) :
    recordFields extraItems record fields check (.obj members) = .ok (mapMembers members) := by
  have perm := lastByKey_perm distinct
  simp only [recordFields]
  rw [forIn_ok fun m member => ?_, forIn_ok fun f listed => ?_]
  · rfl
  · have present : (!f.optional && !(mapMembers members).any fun m => m.1 == f.name) = false := by
      cases optional : f.optional
      · obtain ⟨m, member, named⟩ := List.mem_map.1 (required f listed optional)
        have found : (mapMembers members).any (fun m => m.1 == f.name) = true :=
          List.any_eq_true.2 ⟨m, perm.mem_iff.2 member, by simp [named]⟩
        simp [found]
      · rfl
    rw [if_neg (by simp [present])]
    rfl
  · obtain ⟨isField, decodes⟩ := known m (perm.mem_iff.1 member)
    rw [if_pos isField, decodes]
    rfl

theorem decodeList_strings (names : List String) :
    decodeList decodeString (.arr (names.map .str)) = pure names := by
  induction names with
  | nil => rfl
  | cons name more ih =>
    simp only [decodeList, List.map_cons, List.mapM_cons] at ih ⊢
    rw [ih]
    rfl

theorem foldl_appendNew {names acc : List String} (distinct : (acc ++ names).Nodup) :
    names.foldl (fun acc s => if acc.contains s then acc else acc ++ [s]) acc = acc ++ names := by
  induction names generalizing acc with
  | nil => simp
  | cons name more ih =>
    have fresh : name ∉ acc := fun member =>
      (List.nodup_cons.1 (List.nodup_middle.1 distinct)).1 (List.mem_append_left more member)
    have distinct' : (acc ++ [name] ++ more).Nodup := by simpa using distinct
    rw [List.foldl_cons, if_neg (by simpa using fresh), ih distinct']
    simp

/-- A set of strings, written as the array of its members, reads back as itself. -/
theorem decodeStringSet_names (s : StringSet) : decodeStringSet (.arr (s.names.map .str)) = .ok s := by
  have distinct : s.names.Nodup := s.sorted.imp ne_of_lt
  have inOrder : s.names.Pairwise fun a b => decide (a ≤ b) = true :=
    s.sorted.imp fun less => by simpa using le_of_lt less
  -- sorting the members, each once, changes nothing
  have same : StringSet.ofList s.names = s := by
    cases s with
    | mk names sorted =>
      simp only [StringSet.ofList, StringSet.mk.injEq, StringSet.sortDistinct, StringSet.distinct]
      rw [foldl_appendNew (by simpa using distinct), List.nil_append,
        List.mergeSort_of_pairwise inOrder]
  simp only [decodeStringSet, decodeList_strings, pure_bind, same]
  rfl

end ZfsReplication.Json
