import ScriptSplit.Assignment
import ScriptSplit.Proofs.Lists
import Mathlib.Data.List.Nodup

namespace ScriptSplit.Assignment

def Request.asker? (index : Nat) : Request → Option Text
  | .number label asked => if asked = index then some label else none
  | .wordsOnly _ => none

def grantsAfter (count : Nat) (grants : Grants) (requests : List Request) : Grants :=
  grants ++ (hear count grants requests).filterMap Ruling.grant?

structure Grants.WellFormed (count : Nat) (grants : Grants) : Prop where
  distinct : (grants.map Prod.fst).Nodup
  inRange : ∀ grant ∈ grants, 0 < grant.1 ∧ grant.1 ≤ count

theorem rule_grant?_eq_some_iff {count : Nat} {grants : Grants} {request : Request} {index : Nat}
    {label : Text} : (rule count grants request).grant? = some (index, label) ↔
      request.asker? index = some label ∧ 0 < index ∧ index ≤ count ∧ grants.lookup index = none := by
  cases request with
  | wordsOnly asker => simp [rule, Ruling.grant?, Request.asker?]
  | number asker asked =>
      by_cases outside : asked = 0 ∨ count < asked
      · have : ¬ (0 < asked ∧ asked ≤ count) := by omega
        simp only [rule, if_pos outside, Ruling.grant?, Request.asker?, reduceCtorEq, false_iff]
        rintro ⟨same, low, high, -⟩
        split at same
        · omega
        · cases same
      · cases held : grants.lookup asked with
        | none =>
            simp only [rule, if_neg outside, held, Ruling.grant?, Request.asker?, Option.some.injEq,
              Prod.mk.injEq, Option.ite_none_right_eq_some]
            constructor
            · rintro ⟨rfl, rfl⟩
              exact ⟨⟨rfl, rfl⟩, by omega, by omega, held⟩
            · rintro ⟨⟨rfl, rfl⟩, -⟩
              exact ⟨rfl, rfl⟩
        | some holder =>
            have refused : (rule count grants (.number asker asked)).grant? = none := by
              simp only [rule, if_neg outside, held]
              split <;> rfl
            simp only [refused, reduceCtorEq, false_iff]
            rintro ⟨same, -, -, free⟩
            simp only [Request.asker?, Option.ite_none_right_eq_some] at same
            rw [same.1, free] at held
            cases held

theorem Grants.WellFormed.rule {count : Nat} {grants : Grants} (h : grants.WellFormed count)
    (request : Request) :
    (grants ++ (rule count grants request).grant?.toList).WellFormed count := by
  cases ruled : (Assignment.rule count grants request).grant? with
  | none => simpa using h
  | some grant =>
      obtain ⟨index, label⟩ := grant
      obtain ⟨-, low, high, free⟩ := rule_grant?_eq_some_iff.mp ruled
      have fresh : index ∉ grants.map Prod.fst := by
        intro member
        obtain ⟨grant, earlier, same⟩ := List.mem_map.mp member
        have differs := List.lookup_eq_none_iff.mp free grant earlier
        simp [same] at differs
      constructor
      · simp only [Option.toList_some, List.map_append, List.map_cons, List.map_nil]
        exact List.nodup_append.mpr ⟨h.distinct, List.nodup_singleton _, fun a ha b hb same =>
          fresh (List.mem_singleton.mp hb ▸ same ▸ ha)⟩
      · intro grant member
        rcases List.mem_append.mp member with old | new
        · exact h.inRange grant old
        · obtain rfl : grant = (index, label) := by simpa using new
          exact ⟨low, high⟩

theorem lookup_append_rule {count index : Nat} (low : 0 < index) (high : index ≤ count) (grants : Grants)
    (request : Request) :
    (grants ++ (rule count grants request).grant?.toList).lookup index =
      (grants.lookup index).or (request.asker? index) := by
  rw [List.lookup_append]
  cases held : grants.lookup index with
  | some holder => rfl
  | none =>
      simp only [Option.none_or]
      cases ruled : (rule count grants request).grant? with
      | none =>
          cases asker : request.asker? index with
          | none => rfl
          | some label =>
              rw [rule_grant?_eq_some_iff.mpr ⟨asker, low, high, held⟩] at ruled
              cases ruled
      | some grant =>
          obtain ⟨granted, label⟩ := grant
          obtain ⟨asks, -, -, -⟩ := rule_grant?_eq_some_iff.mp ruled
          cases request with
          | wordsOnly asker => cases asks
          | number asker asked =>
              simp only [Request.asker?, Option.ite_none_right_eq_some] at asks
              obtain ⟨rfl, same⟩ := asks
              cases same
              by_cases equal : asked = index
              · simp [Request.asker?, equal]
              · simp [Request.asker?, equal, List.lookup_cons, beq_eq_false_iff_ne.mpr (Ne.symm equal)]

theorem grantsAfter_cons (count : Nat) (grants : Grants) (request : Request) (rest : List Request) :
    grantsAfter count grants (request :: rest) =
      grantsAfter count (grants ++ (rule count grants request).grant?.toList) rest := by
  cases ruled : (rule count grants request).grant? <;> simp [grantsAfter, hear, ruled]

theorem Grants.WellFormed.grantsAfter {count : Nat} {grants : Grants} (h : grants.WellFormed count)
    (requests : List Request) : (grantsAfter count grants requests).WellFormed count := by
  induction requests generalizing grants with
  | nil => simpa [Assignment.grantsAfter, hear] using h
  | cons request rest ih =>
      rw [grantsAfter_cons]
      exact ih (h.rule request)

theorem lookup_grantsAfter {count index : Nat} (low : 0 < index) (high : index ≤ count) (grants : Grants)
    (requests : List Request) :
    (grantsAfter count grants requests).lookup index =
      (grants.lookup index).or (requests.findSome? (Request.asker? index)) := by
  induction requests generalizing grants with
  | nil => simp [grantsAfter, hear]
  | cons request rest ih =>
      rw [grantsAfter_cons, ih, lookup_append_rule low high, Option.or_assoc]
      congr 1
      cases asker : request.asker? index <;> simp [asker]

theorem wellFormed_nil (count : Nat) : Grants.WellFormed count [] := ⟨List.nodup_nil, by simp⟩

theorem Grants.WellFormed.mem_iff_lookup {count : Nat} {grants : Grants} (h : grants.WellFormed count)
    {index : Nat} {label : Text} : (index, label) ∈ grants ↔ grants.lookup index = some label :=
  Lists.mem_iff_lookup h.distinct

end ScriptSplit.Assignment
