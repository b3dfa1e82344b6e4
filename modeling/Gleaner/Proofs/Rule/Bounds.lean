import Gleaner.Proofs.Json
import Gleaner.Proofs.Rule.Depth

set_option autoImplicit false

/-! # Walks with different bounds

All that a bound decides is how many levels are left below a depth. One comparison says so: where no more
levels are left than another time, the result is a truncation of that other result
(`RuleFunction.truncates_evaluateAt`), which is the same but for nulls in the place of what stands too deep.
For the walks from the root this is what raising the bound does (`Rule.truncates_walk`); and where the same
number of levels is left, each result is a truncation of the other, so they are equal
(`Rule.walkAt_eq_walk`). -/

namespace Gleaner

variable {E : Type}

/-! ## Truncated values -/

namespace Json

/-- The first value is the second one with null in the place of some of its parts. -/
inductive Truncates : Json → Json → Prop where
  | null (v : Json) : Truncates .null v
  | bool (b : Bool) : Truncates (.bool b) (.bool b)
  | num (n : Number) : Truncates (.num n) (.num n)
  | str (s : String) : Truncates (.str s) (.str s)
  | arr (items others : List Json) (h : List.Forall₂ Truncates items others) :
    Truncates (.arr items) (.arr others)
  | obj (members others : List (String × Json)) (hkeys : members.map (·.1) = others.map (·.1))
    (h : List.Forall₂ Truncates (members.map (·.2)) (others.map (·.2))) :
    Truncates (.obj members) (.obj others)

theorem truncates_obj_of_forall₂ {members others : List (String × Json)}
    (h : List.Forall₂ (fun m n => m.1 = n.1 ∧ m.2.Truncates n.2) members others) :
    (obj members).Truncates (obj others) := by
  refine .obj _ _ ?_ ?_
  · rw [← List.forall₂_eq_eq_eq, List.forall₂_map_left_iff, List.forall₂_map_right_iff]
    exact h.imp fun _ _ hmn => hmn.1
  · rw [List.forall₂_map_left_iff, List.forall₂_map_right_iff]
    exact h.imp fun _ _ hmn => hmn.2

@[simp] theorem truncates_refl (v : Json) : v.Truncates v := by
  induction v with
  | null => exact .null _
  | bool b => exact .bool b
  | num n => exact .num n
  | str s => exact .str s
  | arr items ih => exact .arr _ _ (List.forall₂_same.mpr ih)
  | obj members ih =>
    exact truncates_obj_of_forall₂ (List.forall₂_same.mpr fun m hm => ⟨rfl, ih m hm⟩)

/-- Lists that are truncations of each other are equal if that is so of their items. -/
theorem eq_of_forall₂_truncates {items others : List Json}
    (hitems : ∀ item ∈ items, ∀ w, item.Truncates w → w.Truncates item → item = w)
    (h : List.Forall₂ Truncates items others) (h' : List.Forall₂ Truncates others items) :
    items = others := by
  induction h with
  | nil => rfl
  | @cons item other rest others hitem hrest ih =>
    obtain ⟨hother, hothers⟩ := List.forall₂_cons.mp h'
    rw [hitems item List.mem_cons_self other hitem hother,
      ih (fun i hi => hitems i (List.mem_cons_of_mem _ hi)) hothers]

/-- Values that are truncations of each other are equal. -/
theorem Truncates.antisymm {v w : Json} (h : v.Truncates w) (h' : w.Truncates v) : v = w := by
  induction v generalizing w with
  | null =>
    cases h' with
    | null => rfl
  | bool b =>
    cases h with
    | bool => rfl
  | num n =>
    cases h with
    | num => rfl
  | str s =>
    cases h with
    | str => rfl
  | arr items ih =>
    cases h with
    | arr _ others h =>
      cases h' with
      | arr _ _ h' => rw [eq_of_forall₂_truncates (fun item hitem _ => ih item hitem) h h']
  | obj members ih =>
    cases h with
    | obj _ others hkeys h =>
      cases h' with
      | obj _ _ _ h' =>
        have hvalues : members.map (·.2) = others.map (·.2) := by
          refine eq_of_forall₂_truncates (fun v hv w => ?_) h h'
          obtain ⟨m, hm, rfl⟩ := List.mem_map.mp hv
          exact ih m hm
        have hmembers : members = others := by
          rw [← List.zip_unzip members, ← List.zip_unzip others, List.unzip_fst, List.unzip_snd,
            List.unzip_fst, List.unzip_snd, hkeys, hvalues]
        rw [hmembers]

end Json

/-! ## Fewer levels -/

section Levels

variable (t : Accessors E) {bound bound' : Nat}

/-- A rule that has no more levels left than another time gives a truncation of what it gives then, if that
is so of its functions. -/
theorem Rule.truncates_walkAt_of_functions {r : Rule}
    (h : ∀ f ∈ r.functions, ∀ e depth depth', bound + depth' ≤ bound' + depth →
      (f.evaluateAt t bound e depth).Truncates (f.evaluateAt t bound' e depth'))
    (e : E) {depth depth' : Nat} (hlevels : bound + depth' ≤ bound' + depth) :
    (r.walkAt t bound e depth).Truncates (r.walkAt t bound' e depth') := by
  by_cases hdepth : bound < depth
  · rw [walkAt_of_lt t hdepth]
    exact .null _
  · -- No fewer levels are left the second time, so that time it is not too deep either.
    have hdepth' : ¬ bound' < depth' := by omega
    have hbelow : bound + (depth' + 1) ≤ bound' + (depth + 1) := by omega
    obtain ⟨shortcut, fields, malformed⟩ := r
    obtain ⟨hshortcut, hfields⟩ := forall_functions_iff.mp h
    cases shortcut with
    | some f =>
      simp only [walkAt, hdepth, hdepth', if_false]
      exact hshortcut f rfl e _ _ hbelow
    | none =>
      simp only [walkAt, hdepth, hdepth', if_false, walkFields_eq_map]
      refine Json.truncates_obj_of_forall₂ (Entries.forall₂_ofList (fun _ _ hmn => hmn.1) ?_)
      rw [List.forall₂_map_left_iff, List.forall₂_map_right_iff, List.forall₂_same]
      exact fun p hp => ⟨rfl, hfields p hp e _ _ hbelow⟩

/-- Where the first time is too deep it gives null, so only two times within their bounds are left to
compare. -/
theorem RuleFunction.truncates_evaluateAt_of_within {f : RuleFunction} {e : E} {depth depth' : Nat}
    (hlevels : bound + depth' ≤ bound' + depth)
    (h : ¬ bound < depth → ¬ bound' < depth' → bound + (depth' + 1) ≤ bound' + (depth + 1) →
      (f.evaluateAt t bound e depth).Truncates (f.evaluateAt t bound' e depth')) :
    (f.evaluateAt t bound e depth).Truncates (f.evaluateAt t bound' e depth') := by
  by_cases hdepth : bound < depth
  · rw [evaluateAt_of_lt t hdepth]
    exact .null _
  · exact h hdepth (by omega) (by omega)

/-- A function that has no more levels left than another time gives a truncation of what it gives then. -/
theorem RuleFunction.truncates_evaluateAt (f : RuleFunction) (e : E) {depth depth' : Nat}
    (hlevels : bound + depth' ≤ bound' + depth) :
    (f.evaluateAt t bound e depth).Truncates (f.evaluateAt t bound' e depth') := by
  induction f generalizing e depth depth' with
  | findOne selector rule ih =>
    refine truncates_evaluateAt_of_within t hlevels fun hdepth hdepth' hbelow => ?_
    have hrule := rule.truncates_walkAt_of_functions t fun f hf e _ _ => ih f hf e
    rcases hfind : t.find e selector with _ | _ | ⟨first, rest⟩ <;>
      simp only [evaluateAt, hdepth, hdepth', if_false, hfind, Json.truncates_refl]
    exact hrule first hbelow
  | find selector rule ih =>
    refine truncates_evaluateAt_of_within t hlevels fun hdepth hdepth' hbelow => ?_
    have hrule := rule.truncates_walkAt_of_functions t fun f hf e _ _ => ih f hf e
    cases hfind : t.find e selector with
    | none => simp only [evaluateAt, hdepth, hdepth', if_false, hfind, Json.truncates_refl]
    | some found =>
      simp only [evaluateAt, hdepth, hdepth', if_false, hfind]
      refine .arr _ _ ?_
      rw [List.forall₂_map_left_iff, List.forall₂_map_right_iff, List.forall₂_same]
      exact fun d _ => hrule d hbelow
  | nested rule ih =>
    refine truncates_evaluateAt_of_within t hlevels fun hdepth hdepth' hbelow => ?_
    have hrule := rule.truncates_walkAt_of_functions t fun f hf e _ _ => ih f hf e
    simp only [evaluateAt, hdepth, hdepth', if_false]
    exact hrule e hbelow
  | _ =>
    refine truncates_evaluateAt_of_within t hlevels fun hdepth hdepth' _ => ?_
    simp only [evaluateAt, hdepth, hdepth', if_false, Json.truncates_refl]

theorem Rule.truncates_walkAt (r : Rule) (e : E) {depth depth' : Nat}
    (hlevels : bound + depth' ≤ bound' + depth) :
    (r.walkAt t bound e depth).Truncates (r.walkAt t bound' e depth') :=
  r.truncates_walkAt_of_functions t (fun f _ e _ _ => f.truncates_evaluateAt t e) e hlevels

/-! ## The same number of levels -/

/-- Within the bound, a function gives what it gives at the root with the levels that are left. -/
theorem RuleFunction.evaluateAt_eq_evaluate {depth : Nat} (h : depth ≤ bound) (f : RuleFunction) (e : E) :
    f.evaluateAt t bound e depth = f.evaluate t (bound - depth) e :=
  (f.truncates_evaluateAt t e (by omega)).antisymm (f.truncates_evaluateAt t e (by omega))

/-- Within the bound, a rule gives what it gives at the root with the levels that are left. -/
theorem Rule.walkAt_eq_walk {depth : Nat} (h : depth ≤ bound) (r : Rule) (e : E) :
    r.walkAt t bound e depth = r.walk t (bound - depth) e :=
  (r.truncates_walkAt t e (by omega)).antisymm (r.truncates_walkAt t e (by omega))

end Levels

/-! ## Main results -/

/-- Raising the bound only fills in nulls: the result of a rule and the value of a function are truncations
of those with a greater bound. -/
theorem Rule.truncates_walk (t : Accessors E) {bound bound' : Nat} (h : bound ≤ bound') (e : E) :
    (∀ r : Rule, (r.walk t bound e).Truncates (r.walk t bound' e))
      ∧ ∀ f : RuleFunction, (f.evaluate t bound e).Truncates (f.evaluate t bound' e) :=
  ⟨fun r => r.truncates_walkAt t e (by omega), fun f => f.truncates_evaluateAt t e (by omega)⟩

/-- With two more levels the texts of the items are filled in. -/
theorem Rule.truncates_walk_of_items :
    let items := single (.find "li" (single .text))
    let page := (Html.Page.read "<ul><li>a<li>b</ul>").top
    1 ≤ 3 ∧ items.walk (Element.accessors id) 1 page = .arr [.null, .null]
      ∧ items.walk (Element.accessors id) 3 page = .arr [.str "a", .str "b"]
      ∧ (items.walk (Element.accessors id) 1 page).Truncates (items.walk (Element.accessors id) 3 page) := by
  intro items page
  have hle : 1 ≤ 3 := by decide
  have hnulls : items.walk (Element.accessors id) 1 page = .arr [.null, .null] := by decide +kernel
  have htexts : items.walk (Element.accessors id) 3 page = .arr [.str "a", .str "b"] := by decide +kernel
  exact ⟨hle, hnulls, htexts, (truncates_walk (Element.accessors id) hle page).1 items⟩

/-- The rule of one true function has it as its shortcut and nothing else. -/
theorem Rule.single_eq {f : RuleFunction} (h : f.isTruthy = true) : single f = .mk (some f) [] none := by
  simp [single, field, h, empty, fields, malformed?]

/-- Walking a rule that is one function is evaluating the function, and evaluating a rule for the same
element is walking the rule, each with one level more. In general depth and bound decide on a result only by
whether the bound is exceeded and otherwise by the levels that are left. -/
theorem Rule.walk_single_and_evaluate_nested (t : Accessors E) (bound : Nat) (e : E) :
    (∀ f : RuleFunction, f.isTruthy = true →
        (single f).walk t (bound + 1) e = f.evaluate t bound e)
      ∧ (∀ r : Rule, (RuleFunction.nested r).evaluate t (bound + 1) e = r.walk t bound e)
      ∧ ∀ depth,
        (∀ r : Rule, r.walkAt t bound e depth
          = if bound < depth then .null else r.walk t (bound - depth) e)
        ∧ ∀ f : RuleFunction, f.evaluateAt t bound e depth
          = if bound < depth then .null else f.evaluate t (bound - depth) e := by
  refine ⟨fun f hf => ?_, fun r => ?_, fun depth => ⟨fun r => ?_, fun f => ?_⟩⟩
  · rw [single_eq hf]
    exact f.evaluateAt_eq_evaluate t (by omega) e
  · exact r.walkAt_eq_walk t (by omega) e
  · split
    · next hdepth => exact r.walkAt_of_lt t hdepth e
    · next hdepth => exact r.walkAt_eq_walk t (by omega) e
  · split
    · next hdepth => exact f.evaluateAt_of_lt t hdepth e
    · next hdepth => exact f.evaluateAt_eq_evaluate t (by omega) e

/-- The texts of the items, as the whole result of a rule and as the value of its function. -/
theorem Rule.walk_single_of_items :
    (RuleFunction.find "li" (single .text)).isTruthy = true
      ∧ (single (.find "li" (single .text))).walk (Element.accessors id) 3
        (Html.Page.read "<ul><li>a<li>b</ul>").top = .arr [.str "a", .str "b"] := by
  refine ⟨rfl, ?_⟩
  rw [(walk_single_and_evaluate_nested (Element.accessors id) 2 _).1 _ rfl]
  decide +kernel

end Gleaner
