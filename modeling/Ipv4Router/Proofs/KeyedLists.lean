import Mathlib.Data.List.Nodup

/-!
# Lists with distinct keys

The neighbours of a router and its pending requests are lists whose members have
distinct addresses.  In such a list a search by key finds the only member with
the key, so the search commutes with the removal of members.
-/

namespace Ipv4Router

section KeyedLists

variable {Member Key : Type} [DecidableEq Key] {key : Member → Key}

theorem find?_key_eq_some_iff {members : List Member} (distinct : (members.map key).Nodup)
    {wanted : Key} {member : Member} :
    members.find? (fun other => key other = wanted) = some member ↔
      member ∈ members ∧ key member = wanted := by
  constructor
  · intro found
    exact ⟨List.mem_of_find?_eq_some found, by simpa using List.find?_some found⟩
  · rintro ⟨present, keyEq⟩
    cases found : members.find? (fun other => key other = wanted) with
    | none =>
        have absent := List.find?_eq_none.mp found member present
        simp [keyEq] at absent
    | some other =>
        have otherKey : key other = wanted := by simpa using List.find?_some found
        have same := List.inj_on_of_nodup_map distinct (List.mem_of_find?_eq_some found) present
          (otherKey.trans keyEq.symm)
        rw [same]

/-- Removing members before a search by key is the same as rejecting the member
found. -/
theorem find?_key_filter {members : List Member} (distinct : (members.map key).Nodup)
    (keep : Member → Bool) (wanted : Key) :
    (members.filter keep).find? (fun member => key member = wanted) =
      (members.find? (fun member => key member = wanted)).filter keep := by
  have filteredDistinct : ((members.filter keep).map key).Nodup :=
    (List.filter_sublist.map key).nodup distinct
  apply Option.ext
  intro member
  rw [find?_key_eq_some_iff filteredDistinct, Option.filter_eq_some_iff,
    find?_key_eq_some_iff distinct, List.mem_filter, and_right_comm]

omit [DecidableEq Key] in
theorem key_ne_of_nodup_cons {member : Member} {rest : List Member}
    (distinct : ((member :: rest).map key).Nodup) :
    ∀ other ∈ rest, key other ≠ key member := by
  intro other present equal
  exact (List.nodup_cons.mp distinct).1 (List.mem_map.mpr ⟨other, present, equal⟩)

theorem filter_key_eq_toList {members : List Member} (distinct : (members.map key).Nodup)
    (wanted : Key) :
    members.filter (fun member => key member = wanted) =
      (members.find? (fun member => key member = wanted)).toList := by
  induction members with
  | nil => rfl
  | cons member rest ih =>
      have restDistinct := (List.nodup_cons.mp distinct).2
      by_cases same : key member = wanted
      · have restOther : ∀ other ∈ rest, ¬ decide (key other = wanted) = true := by
          intro other present
          rw [decide_eq_true_eq, ← same]
          exact key_ne_of_nodup_cons distinct other present
        rw [List.filter_cons_of_pos (by simpa using same), List.filter_eq_nil_iff.mpr restOther,
          List.find?_cons_of_pos (by simpa using same)]
        rfl
      · rw [List.filter_cons_of_neg (by simpa using same), ih restDistinct,
          List.find?_cons_of_neg (by simpa using same)]

/-- Removing the first member with a key removes all of them. -/
theorem eraseP_key_eq_filter {members : List Member} (distinct : (members.map key).Nodup)
    (unwanted : Key) :
    members.eraseP (fun member => key member = unwanted) =
      members.filter (fun member => key member ≠ unwanted) := by
  induction members with
  | nil => rfl
  | cons member rest ih =>
      have restDistinct := (List.nodup_cons.mp distinct).2
      by_cases same : key member = unwanted
      · have restKept : ∀ other ∈ rest, decide (key other ≠ unwanted) = true := by
          intro other present
          rw [decide_eq_true_eq, ← same]
          exact key_ne_of_nodup_cons distinct other present
        rw [List.eraseP_cons_of_pos (by simpa using same),
          List.filter_cons_of_neg (by simpa using same), List.filter_eq_self.mpr restKept]
      · rw [List.eraseP_cons_of_neg (by simpa using same),
          List.filter_cons_of_pos (by simpa using same), ih restDistinct]

end KeyedLists

end Ipv4Router
