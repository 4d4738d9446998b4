import AttachGate.Value.Access
import AttachGate.Value.Equal

/-!
# Members of objects

What is under a key once members have been set, which members come of pairs, what
equal objects have in common, and what parts of a value are read one after another.
-/

namespace AttachGate

namespace Members

theorem get?_set_self (key : Text) (v : Value) (m : Members) :
    (m.set key v).get? key = some v := by
  induction m with
  | nil => simp [set, get?]
  | cons entry rest ih =>
      obtain ⟨k, w⟩ := entry
      by_cases hkey : k = key
      · simp [set, get?, hkey]
      · simp [set, get?, hkey, ih]

theorem get?_set_of_ne {key other : Text} (hother : other ≠ key) (v : Value) (m : Members) :
    (m.set key v).get? other = m.get? other := by
  induction m with
  | nil => simp [set, get?, Ne.symm hother]
  | cons entry rest ih =>
      obtain ⟨k, w⟩ := entry
      by_cases hkey : k = key
      · subst hkey
        simp [set, get?, Ne.symm hother]
      · by_cases hk : k = other
        · subst hk
          simp [set, get?, hkey]
        · simp [set, get?, hkey, hk, ih]

theorem mem_of_get? {key : Text} {v : Value} {m : Members} (hfound : m.get? key = some v) :
    (key, v) ∈ m := by
  induction m with
  | nil => cases hfound
  | cons member rest ih =>
      obtain ⟨k, w⟩ := member
      rw [get?] at hfound
      split at hfound
      · rename_i hkey
        cases hfound
        rw [hkey]
        exact .head _
      · exact .tail _ (ih hfound)

theorem set_of_notMem {key : Text} {members : Members} (hkey : key ∉ members.map Prod.fst)
    (v : Value) : members.set key v = members ++ [(key, v)] := by
  induction members with
  | nil => rfl
  | cons member rest ih =>
      rw [List.map_cons, List.mem_cons, not_or] at hkey
      obtain ⟨hfirst, hrest⟩ := hkey
      simp only [set, Ne.symm hfirst, if_false, ih hrest, List.cons_append]

/-- A member is set in the place of the one under its key, or added at the end. -/
inductive Sets (key : Text) (v : Value) : Members → Members → Prop
  | inPlace (before : Members) (old : Value) (after : Members)
    (hfirst : key ∉ before.map Prod.fst) :
    Sets key v (before ++ (key, old) :: after) (before ++ (key, v) :: after)
  | added (members : Members) (hnew : key ∉ members.map Prod.fst) :
    Sets key v members (members ++ [(key, v)])

theorem sets_set (key : Text) (v : Value) (members : Members) :
    Sets key v members (members.set key v) := by
  induction members with
  | nil => exact .added [] (by simp)
  | cons member rest ih =>
      obtain ⟨k, w⟩ := member
      by_cases hkey : k = key
      · subst hkey
        simp only [set, if_true]
        exact .inPlace [] w rest (by simp)
      · simp only [set, hkey, if_false]
        generalize Members.set key v rest = later at ih
        cases ih with
        | inPlace before old after hfirst =>
            exact .inPlace ((k, w) :: before) old after (by simp [hfirst, Ne.symm hkey])
        | added _ hnew => exact .added ((k, w) :: rest) (by simp [hnew, Ne.symm hkey])

section Sets

variable {key : Text} {v : Value} {m n : Members}

theorem Sets.mem (hsets : Sets key v m n) {member : Text × Value} (hmem : member ∈ n) :
    member = (key, v) ∨ member ∈ m := by
  cases hsets with
  | inPlace before old after hfirst =>
      simp only [List.mem_append, List.mem_cons] at hmem ⊢
      rcases hmem with hmem | hmem | hmem
      · exact .inr (.inl hmem)
      · exact .inl hmem
      · exact .inr (.inr (.inr hmem))
  | added _ hnew =>
      rcases List.mem_append.mp hmem with hmem | hmem
      · exact .inr hmem
      · exact .inl (List.mem_singleton.mp hmem)

theorem Sets.nodup (hsets : Sets key v m n) (hm : (m.map Prod.fst).Nodup) :
    (n.map Prod.fst).Nodup := by
  cases hsets with
  | inPlace before old after hfirst => simpa using hm
  | added _ hnew =>
      rw [List.map_append, List.nodup_append]
      refine ⟨hm, by simp, ?_⟩
      intro k hk l hl
      rw [List.map_singleton, List.mem_singleton] at hl
      rintro rfl
      rw [hl] at hk
      exact hnew hk

end Sets

/-- Collected members have different keys, and each of them was given. -/
theorem ofPairs_spec (pairs : List (Text × Value)) :
    ((ofPairs pairs).map Prod.fst).Nodup ∧ ∀ member ∈ ofPairs pairs, member ∈ pairs := by
  have hcollect : ∀ (later : List (Text × Value)) (before : Members),
      (before.map Prod.fst).Nodup → ∀ collected,
        later.foldl (fun members member => members.set member.1 member.2) before = collected →
          (collected.map Prod.fst).Nodup ∧
            ∀ member ∈ collected, member ∈ before ∨ member ∈ later := by
    intro later
    induction later with
    | nil =>
        rintro before hbefore _ rfl
        exact ⟨hbefore, fun member hmem => .inl hmem⟩
    | cons pair later ih =>
        intro before hbefore collected hcollected
        have hsets := sets_set pair.1 pair.2 before
        obtain ⟨hnodup, hmem⟩ := ih _ (hsets.nodup hbefore) collected hcollected
        refine ⟨hnodup, fun member hmember => ?_⟩
        rcases hmem member hmember with hset | hlater
        · rcases hsets.mem hset with rfl | hold
          · exact .inr (.head _)
          · exact .inl hold
        · exact .inr (.tail _ hlater)
  obtain ⟨hnodup, hmem⟩ := hcollect pairs [] (by simp) (ofPairs pairs) rfl
  refine ⟨hnodup, fun member hmember => ?_⟩
  exact (hmem member hmember).resolve_left (by simp)

/-- Members with different keys are collected as they come. -/
theorem ofPairs_of_nodup {pairs : List (Text × Value)} (hpairs : (pairs.map Prod.fst).Nodup) :
    ofPairs pairs = pairs := by
  have hcollect : ∀ (later before : Members), ((before ++ later).map Prod.fst).Nodup →
      later.foldl (fun members member => members.set member.1 member.2) before =
        before ++ later := by
    intro later
    induction later with
    | nil => simp
    | cons member later ih =>
        intro before hnodup
        have hnew : member.1 ∉ before.map Prod.fst := by
          rw [List.map_append, List.nodup_append] at hnodup
          intro hmem
          exact hnodup.2.2 _ hmem _ (by simp) rfl
        have hsplit : before ++ member :: later = before ++ [member] ++ later := by simp
        rw [List.foldl_cons, set_of_notMem hnew, hsplit]
        exact ih _ (hsplit ▸ hnodup)
  exact hcollect pairs [] hpairs

end Members

/-! ## Equal values -/

namespace Value

theorem eq_text_of_same {t : Text} {v : Value} (hsame : (Value.text t).same v = true) :
    v = .text t := by
  cases v <;> simp_all [same, isNaN, number?]

/-- A text equals that text and nothing else. -/
theorem text_equal_iff {t : Text} {v : Value} : (Value.text t).equal v = true ↔ v = .text t := by
  constructor
  · intro hequal
    simp only [equal, Bool.and_eq_true] at hequal
    exact eq_text_of_same hequal.2
  · rintro rfl
    simp [equal, same, isNaN]

theorem same_of_sameMembers {m n : Members} {key : Text} {v : Value}
    (hsame : sameMembers m n = true) (hfound : m.get? key = some v) :
    ∃ w, n.get? key = some w ∧ v.same w = true := by
  induction m with
  | nil => cases hfound
  | cons member rest ih =>
      obtain ⟨k, x⟩ := member
      simp only [sameMembers, Bool.and_eq_true] at hsame
      rw [Members.get?] at hfound
      split at hfound
      · rename_i hkey
        cases hfound
        subst hkey
        cases hother : n.get? k with
        | none => simp [hother] at hsame
        | some w => exact ⟨w, rfl, by simpa [hother] using hsame.1⟩
      · exact ih hsame.2 hfound

/-- A value that is the same as an object is one, and has the same under each key. -/
theorem object_of_same {m : Members} {w : Value} (hsame : (Value.object m).same w = true) :
    ∃ n : Members, w = .object n ∧
      ∀ key v, m.get? key = some v → ∃ v', n.get? key = some v' ∧ v.same v' = true := by
  cases w with
  | object n =>
      simp only [same, Bool.and_eq_true] at hsame
      exact ⟨n, rfl, fun key v hfound => same_of_sameMembers hsame.2 hfound⟩
  | _ => simp [same] at hsame

end Value

/-! ## Reading -/

theorem Value.field_object (members : Members) (key : Text) (default : Value) :
    (Value.object members).field key default = .ok ((members.get? key).getD default) := rfl

theorem bind_eq_ok {ε α β : Type} {x : Except ε α} {f : α → Except ε β} {b : β} :
    (x >>= f) = .ok b ↔ ∃ a, x = .ok a ∧ f a = .ok b := by
  cases x <;> simp [bind, Except.bind]

theorem map_eq_ok {ε α β : Type} {x : Except ε α} {f : α → β} {b : β} :
    x.map f = .ok b ↔ ∃ a, x = .ok a ∧ f a = b := by
  cases x <;> simp [Except.map]

end AttachGate
