import Gleaner.Element
import Gleaner.Html.Reader
import Gleaner.Proofs.Rule.Induction

set_option autoImplicit false

/-! # What the bound on levels does

The root of a rule stands at depth 0, the functions of a rule one level below it, and the rule of a
function one level below the function. `Rule.walkFully` is the walk that counts no levels, and
`Rule.cut` replaces the outermost parts below a bound by parts that always give null. Walking up to
a bound is walking the cut rule without one (`Rule.walk_eq_walkFully_cut`), and no more than that: a
rule whose height is within the bound is walked as if there were none. -/

namespace Gleaner

variable {E : Type}

/-! ## Walking without a bound -/

mutual

/-- The result of a rule, however deep it is. -/
def Rule.walkFully (t : Accessors E) : Rule → E → Json
  | .mk none fields _, e => .obj (Entries.ofList (Rule.walkFieldsFully t fields e))
  | .mk (some f) _ _, e => f.evaluateFully t e

/-- The results of fields, however deep they are. -/
def Rule.walkFieldsFully (t : Accessors E) :
    List (String × RuleFunction) → E → List (String × Json)
  | [], _ => []
  | (name, f) :: rest, e => (name, f.evaluateFully t e) :: Rule.walkFieldsFully t rest e

/-- The value of a function, however deep it is. -/
def RuleFunction.evaluateFully (t : Accessors E) : RuleFunction → E → Json
  | .text, e => .str (t.text e)
  | .value, e => t.value e
  | .html, e => .ofText? (t.innerHtml e)
  | .css property, e => .ofText? (t.css e property)
  | .data key, e => t.data e key
  | .attr name, e => .ofText? (t.attr e name)
  | .prop name, e => t.prop e name
  | .findOne selector rule, e =>
    match t.find e selector with
    | some (first :: _) => rule.walkFully t first
    | some [] | none => .null
  | .find selector rule, e =>
    match t.find e selector with
    | some found => .arr (found.map fun d => rule.walkFully t d)
    | none => .null
  | .nested rule, e => rule.walkFully t e
  | .invalid _, _ => .null

end

theorem Rule.walkFieldsFully_eq_map (t : Accessors E) (fields : List (String × RuleFunction))
    (e : E) :
    walkFieldsFully t fields e = fields.map fun p => (p.1, p.2.evaluateFully t e) := by
  induction fields with
  | nil => rfl
  | cons p rest ih => simp [walkFieldsFully, ih]

/-! ## Cutting off what stands too deep -/

/-- A function that always gives null. -/
def RuleFunction.nothing : RuleFunction := .invalid (.bool true)

/-- A rule that always gives null. -/
def Rule.nothing : Rule := .single .nothing

@[simp] theorem RuleFunction.evaluateFully_nothing (t : Accessors E) (e : E) :
    RuleFunction.nothing.evaluateFully t e = .null := rfl

@[simp] theorem Rule.walkFully_nothing (t : Accessors E) (e : E) :
    Rule.nothing.walkFully t e = .null := rfl

mutual

/-- A rule that stands at a depth, with nothing below the bound. -/
def Rule.cutAt (bound : Nat) : Rule → Nat → Rule
  | .mk none fields malformed, depth =>
    if bound < depth then .nothing
    else .mk none (Rule.cutFieldsAt bound fields (depth + 1)) malformed
  | .mk (some f) fields malformed, depth =>
    if bound < depth then .nothing
    else
      .mk (some (f.cutAt bound (depth + 1))) (Rule.cutFieldsAt bound fields (depth + 1)) malformed

/-- Fields whose functions stand at a depth, with nothing below the bound. -/
def Rule.cutFieldsAt (bound : Nat) :
    List (String × RuleFunction) → Nat → List (String × RuleFunction)
  | [], _ => []
  | (name, f) :: rest, depth => (name, f.cutAt bound depth) :: Rule.cutFieldsAt bound rest depth

/-- A function that stands at a depth, with nothing below the bound. -/
def RuleFunction.cutAt (bound : Nat) : RuleFunction → Nat → RuleFunction
  | .findOne selector rule, depth =>
    if bound < depth then .nothing else .findOne selector (rule.cutAt bound (depth + 1))
  | .find selector rule, depth =>
    if bound < depth then .nothing else .find selector (rule.cutAt bound (depth + 1))
  | .nested rule, depth =>
    if bound < depth then .nothing else .nested (rule.cutAt bound (depth + 1))
  | f, depth => if bound < depth then .nothing else f

end

/-- The rule with nothing below the bound. -/
def Rule.cut (bound : Nat) (r : Rule) : Rule := r.cutAt bound 0

theorem Rule.cutFieldsAt_eq_map (bound : Nat) (fields : List (String × RuleFunction))
    (depth : Nat) :
    cutFieldsAt bound fields depth = fields.map fun p => (p.1, p.2.cutAt bound depth) := by
  induction fields with
  | nil => rfl
  | cons p rest ih => simp [cutFieldsAt, ih]

/-! ## Below the bound -/

theorem RuleFunction.evaluateAt_of_lt (t : Accessors E) {bound depth : Nat} (h : bound < depth)
    (f : RuleFunction) (e : E) : f.evaluateAt t bound e depth = .null := by
  cases f <;> simp only [evaluateAt, h, if_pos]

theorem Rule.walkAt_of_lt (t : Accessors E) {bound depth : Nat} (h : bound < depth) (r : Rule)
    (e : E) : r.walkAt t bound e depth = .null := by
  obtain ⟨_ | f, fields, malformed⟩ := r <;> simp only [walkAt, h, if_pos]

theorem RuleFunction.cutAt_of_lt {bound depth : Nat} (h : bound < depth) (f : RuleFunction) :
    f.cutAt bound depth = .nothing := by
  cases f <;> simp only [cutAt, h, if_pos]

theorem Rule.cutAt_of_lt {bound depth : Nat} (h : bound < depth) (r : Rule) :
    r.cutAt bound depth = .nothing := by
  obtain ⟨_ | f, fields, malformed⟩ := r <;> simp only [cutAt, h, if_pos]

/-! ## Walking up to a bound -/

/-- A rule is walked up to the bound as its cut is walked without one, if that is so of its
functions. -/
theorem Rule.walkAt_eq_of_functions (t : Accessors E) (bound : Nat) {r : Rule}
    (h : ∀ f ∈ r.functions, ∀ e depth,
      f.evaluateAt t bound e depth = (f.cutAt bound depth).evaluateFully t e)
    (e : E) (depth : Nat) : r.walkAt t bound e depth = (r.cutAt bound depth).walkFully t e := by
  by_cases hdepth : bound < depth
  · rw [walkAt_of_lt t hdepth, cutAt_of_lt hdepth, walkFully_nothing]
  · obtain ⟨shortcut, fields, malformed⟩ := r
    obtain ⟨hshortcut, hfields⟩ := forall_functions_iff.mp h
    cases shortcut with
    | some f =>
      simp only [walkAt, cutAt, hdepth, if_false, walkFully]
      exact hshortcut f rfl e (depth + 1)
    | none =>
      simp only [walkAt, cutAt, hdepth, if_false, walkFully, walkFields_eq_map, cutFieldsAt_eq_map,
        walkFieldsFully_eq_map, List.map_map]
      congr 2
      apply List.map_congr_left
      intro p hp
      simp only [Function.comp_apply, hfields p hp]

/-- Below the bound both sides are null, so only what stands within it is left to compare. -/
theorem RuleFunction.evaluateAt_eq_of_within (t : Accessors E) {bound depth : Nat}
    {f : RuleFunction} {e : E} (h : ¬ bound < depth →
      f.evaluateAt t bound e depth = (f.cutAt bound depth).evaluateFully t e) :
    f.evaluateAt t bound e depth = (f.cutAt bound depth).evaluateFully t e := by
  by_cases hdepth : bound < depth
  · rw [evaluateAt_of_lt t hdepth, cutAt_of_lt hdepth, evaluateFully_nothing]
  · exact h hdepth

theorem RuleFunction.evaluateAt_eq_evaluateFully_cutAt (t : Accessors E) (bound : Nat)
    (f : RuleFunction) (e : E) (depth : Nat) :
    f.evaluateAt t bound e depth = (f.cutAt bound depth).evaluateFully t e := by
  induction f generalizing e depth with
  | findOne selector rule ih =>
    refine evaluateAt_eq_of_within t fun hdepth => ?_
    have hrule := Rule.walkAt_eq_of_functions t bound ih
    rcases hfind : t.find e selector with _ | _ | ⟨first, rest⟩ <;>
      simp only [evaluateAt, cutAt, hdepth, if_false, evaluateFully, hfind, hrule]
  | find selector rule ih =>
    refine evaluateAt_eq_of_within t fun hdepth => ?_
    have hrule := Rule.walkAt_eq_of_functions t bound ih
    cases hfind : t.find e selector <;>
      simp only [evaluateAt, cutAt, hdepth, if_false, evaluateFully, hfind, hrule]
  | nested rule ih =>
    refine evaluateAt_eq_of_within t fun hdepth => ?_
    have hrule := Rule.walkAt_eq_of_functions t bound ih
    simp only [evaluateAt, cutAt, hdepth, if_false, evaluateFully, hrule]
  | _ =>
    refine evaluateAt_eq_of_within t fun hdepth => ?_
    simp only [evaluateAt, cutAt, hdepth, if_false, evaluateFully]

theorem Rule.walkAt_eq_walkFully_cutAt (t : Accessors E) (bound : Nat) (r : Rule) (e : E)
    (depth : Nat) : r.walkAt t bound e depth = (r.cutAt bound depth).walkFully t e :=
  walkAt_eq_of_functions t bound
    (fun f _ => f.evaluateAt_eq_evaluateFully_cutAt t bound) e depth

/-! ## Rules that are not too deep -/

mutual

/-- The depth of the deepest part of a rule that a walk can reach. -/
def Rule.height : Rule → Nat
  | .mk none fields _ => Rule.fieldsHeight fields
  | .mk (some f) _ _ => f.height + 1

/-- The depth of the deepest part among fields, counted from their rule. -/
def Rule.fieldsHeight : List (String × RuleFunction) → Nat
  | [] => 0
  | (_, f) :: rest => max (f.height + 1) (Rule.fieldsHeight rest)

/-- The depth of the deepest part of a function. -/
def RuleFunction.height : RuleFunction → Nat
  | .findOne _ rule | .find _ rule | .nested rule => rule.height + 1
  | .text | .value | .html | .css _ | .data _ | .attr _ | .prop _ | .invalid _ => 0

end

theorem Rule.height_lt_of_mem_fields {fields : List (String × RuleFunction)}
    {p : String × RuleFunction} (h : p ∈ fields) : p.2.height < fieldsHeight fields := by
  induction fields with
  | nil => simp at h
  | cons q rest ih =>
    rcases List.mem_cons.mp h with rfl | hrest
    · simp only [fieldsHeight]
      omega
    · have := ih hrest
      simp only [fieldsHeight]
      omega

/-- A rule that is not too deep loses nothing by the cut that a walk could reach, if that is so of
its functions. -/
theorem Rule.walkFully_cutAt_of_functions (t : Accessors E) (bound : Nat) {r : Rule}
    (h : ∀ f ∈ r.functions, ∀ e depth, f.height + depth ≤ bound →
      (f.cutAt bound depth).evaluateFully t e = f.evaluateFully t e) (e : E) (depth : Nat)
    (hr : r.height + depth ≤ bound) : (r.cutAt bound depth).walkFully t e = r.walkFully t e := by
  have hdepth : ¬ bound < depth := by omega
  obtain ⟨shortcut, fields, malformed⟩ := r
  obtain ⟨hshortcut, hfields⟩ := forall_functions_iff.mp h
  cases shortcut with
  | some f =>
    simp only [height] at hr
    simp only [cutAt, hdepth, if_false, walkFully]
    exact hshortcut f rfl e (depth + 1) (by omega)
  | none =>
    simp only [height] at hr
    simp only [cutAt, hdepth, if_false, walkFully, cutFieldsAt_eq_map, walkFieldsFully_eq_map,
      List.map_map]
    congr 2
    apply List.map_congr_left
    intro p hp
    have hheight := height_lt_of_mem_fields hp
    simp only [Function.comp_apply, hfields p hp e (depth + 1) (by omega)]

theorem RuleFunction.evaluateFully_cutAt_of_height_le (t : Accessors E) (bound : Nat)
    (f : RuleFunction) (e : E) (depth : Nat) (h : f.height + depth ≤ bound) :
    (f.cutAt bound depth).evaluateFully t e = f.evaluateFully t e := by
  induction f generalizing e depth with
  | findOne selector rule ih | find selector rule ih =>
    have hdepth : ¬ bound < depth := by omega
    simp only [height] at h
    have hrule := fun d => Rule.walkFully_cutAt_of_functions t bound ih d (depth + 1) (by omega)
    simp only [cutAt, hdepth, if_false, evaluateFully, hrule]
  | nested rule ih =>
    have hdepth : ¬ bound < depth := by omega
    simp only [height] at h
    have hrule := fun d => Rule.walkFully_cutAt_of_functions t bound ih d (depth + 1) (by omega)
    simp only [cutAt, hdepth, if_false, evaluateFully, hrule]
  | _ =>
    have hdepth : ¬ bound < depth := by omega
    simp only [cutAt, hdepth, if_false]

/-- A rule whose height is within the bound is walked as if there were no bound. -/
theorem Rule.walk_eq_walkFully_of_height_le (t : Accessors E) {bound : Nat} {r : Rule}
    (h : r.height ≤ bound) (e : E) : r.walk t bound e = r.walkFully t e := by
  rw [walk, walkAt_eq_walkFully_cutAt]
  exact walkFully_cutAt_of_functions t bound
    (fun f _ => f.evaluateFully_cutAt_of_height_le t bound) e 0 h

/-! ## Main result -/

/-- At the bound itself elements are still found, and each of them gives null. -/
theorem RuleFunction.evaluateAt_find_bound (t : Accessors E) (bound : Nat) (selector : String)
    (rule : Rule) (e : E) :
    (find selector rule).evaluateAt t bound e bound
      = match t.find e selector with
        | some found => .arr (List.replicate found.length .null)
        | none => .null := by
  have hbelow : (fun d => rule.walkAt t bound d (bound + 1)) = fun _ => .null := by
    funext d
    exact Rule.walkAt_of_lt t (Nat.lt_succ_self bound) rule d
  cases hfind : t.find e selector <;>
    simp only [evaluateAt, Nat.lt_irrefl, if_false, hfind, hbelow, List.map_const']

/-- A walk up to a bound is the walk without one of the rule that has nothing below the bound. So a
rule that is not too deep is walked in full, and what stands too deep gives null for each element
that it is asked for: behind the last selector that is followed, as many nulls as there are
elements. -/
theorem Rule.walk_eq_walkFully_cut (t : Accessors E) (bound : Nat) (r : Rule) (e : E) :
    r.walk t bound e = (r.cut bound).walkFully t e
      ∧ (r.height ≤ bound → r.walk t bound e = r.walkFully t e)
      ∧ (∀ depth, bound < depth → ∀ d : E, (∀ rule : Rule, rule.walkAt t bound d depth = .null)
        ∧ ∀ f : RuleFunction, f.evaluateAt t bound d depth = .null)
      ∧ ∀ selector rule d, (RuleFunction.find selector rule).evaluateAt t bound d bound
        = match t.find d selector with
          | some found => .arr (List.replicate found.length .null)
          | none => .null := by
  refine ⟨?_, fun h => walk_eq_walkFully_of_height_le t h e, ?_, ?_⟩
  · rw [walk, cut, walkAt_eq_walkFully_cutAt]
  · intro depth hdepth d
    exact ⟨fun rule => rule.walkAt_of_lt t hdepth d, fun f => f.evaluateAt_of_lt t hdepth d⟩
  · intro selector rule d
    exact RuleFunction.evaluateAt_find_bound t bound selector rule d

/-- The texts of two items, with a bound at the selector and with a bound at the texts. -/
theorem Rule.walk_texts_of_items :
    (single (.find "li" (single .text))).walk (Element.accessors id) 1
        (Html.Page.read "<ul><li>a<li>b</ul>").top = .arr [.null, .null]
      ∧ (single (.find "li" (single .text))).walk (Element.accessors id) 3
        (Html.Page.read "<ul><li>a<li>b</ul>").top = .arr [.str "a", .str "b"] := by
  constructor
  · rw [(walk_eq_walkFully_cut ..).1]
    decide +kernel
  · rw [(walk_eq_walkFully_cut ..).2.1 (by decide)]
    decide +kernel

end Gleaner
