import Gleaner.Proofs.Json.Nesting
import Gleaner.Proofs.Rule.Depth
import Gleaner.Proofs.Rule.Reading
import Mathlib.Logic.Relation

set_option autoImplicit false

/-! # The calls of a walk

A walk goes from rule to function and from function to rule, one level at a time. `Rule.Call.Makes` is one
such step, and the depth of what is called plus the height of what is left never grows along it
(`Rule.Call.Makes.depth_add_height_le`), so no call stands deeper than the height of the rule. If no call
stands deeper than the bound, the walk is the one without a bound (`Rule.walkAt_eq_walkFully_of_calls`).

The height of a rule that was read is twice the nesting of its text at most: an object takes two levels, one
for the rule and one for its functions, and an array around an object takes none of its own. The limit on
nesting therefore keeps such rules within the default bound (`Rule.walk_of_read`). -/

namespace Gleaner

variable {E : Type}

/-! ## Calls -/

/-- A rule or a function with the element that it is applied to and the depth at which it stands. -/
inductive Rule.Call (E : Type) where
  | walk (rule : Rule) (e : E) (depth : Nat)
  | evaluate (f : RuleFunction) (e : E) (depth : Nat)

namespace Rule.Call

/-- The depth of a call. -/
def depth : Call E → Nat
  | walk _ _ depth => depth
  | evaluate _ _ depth => depth

/-- The height of what is called. -/
def height : Call E → Nat
  | walk rule _ _ => rule.height
  | evaluate f _ _ => f.height

/-- What a call makes next. A call below the bound makes none. -/
inductive Makes (t : Accessors E) (bound : Nat) : Call E → Call E → Prop where
  | asked (rule : Rule) (f : RuleFunction) (e : E) (depth : Nat) (h : depth ≤ bound)
    (hf : f ∈ rule.asked) : Makes t bound (.walk rule e depth) (.evaluate f e (depth + 1))
  | findOne (selector : String) (rule : Rule) (e first : E) (rest : List E) (depth : Nat)
    (h : depth ≤ bound) (hfind : t.find e selector = some (first :: rest)) :
    Makes t bound (.evaluate (.findOne selector rule) e depth) (.walk rule first (depth + 1))
  | find (selector : String) (rule : Rule) (e d : E) (found : List E) (depth : Nat) (h : depth ≤ bound)
    (hfind : t.find e selector = some found) (hd : d ∈ found) :
    Makes t bound (.evaluate (.find selector rule) e depth) (.walk rule d (depth + 1))
  | nested (rule : Rule) (e : E) (depth : Nat) (h : depth ≤ bound) :
    Makes t bound (.evaluate (.nested rule) e depth) (.walk rule e (depth + 1))

/-- The first call is or comes to making the second one. -/
def Leads (t : Accessors E) (bound : Nat) : Call E → Call E → Prop :=
  Relation.ReflTransGen (Makes t bound)

end Rule.Call

/-! ## Calls and heights -/

theorem Rule.height_lt_of_mem_asked {r : Rule} {f : RuleFunction} (h : f ∈ r.asked) :
    f.height < r.height := by
  obtain ⟨_ | s, fields, malformed⟩ := r
  · obtain ⟨p, hp, rfl⟩ := List.mem_map.mp h
    exact height_lt_of_mem_fields hp
  · obtain rfl := List.mem_singleton.mp h
    exact Nat.lt_succ_self _

namespace Rule.Call

variable {t : Accessors E} {bound : Nat} {c c' : Call E}

theorem Makes.depth_add_height_le (h : c.Makes t bound c') : c'.depth + c'.height ≤ c.depth + c.height := by
  cases h with
  | asked rule f e depth h hf =>
    have hheight := height_lt_of_mem_asked hf
    simp only [Call.depth, Call.height]
    omega
  | findOne | find | nested =>
    simp only [Call.depth, Call.height, RuleFunction.height]
    omega

/-- No call stands deeper than the height of what is called first. -/
theorem Leads.depth_le (h : c.Leads t bound c') : c'.depth ≤ c.depth + c.height := by
  have hsum : c'.depth + c'.height ≤ c.depth + c.height := by
    induction h with
    | refl => exact Nat.le_refl _
    | tail _ hmakes ih => exact Nat.le_trans hmakes.depth_add_height_le ih
  omega

end Rule.Call

/-! ## Calls within the bound -/

section Within

variable (t : Accessors E) (bound : Nat)

/-- No call that this one leads to stands deeper than the bound. -/
def Rule.Call.StaysWithin (c : Rule.Call E) : Prop := ∀ c', c.Leads t bound c' → c'.depth ≤ bound

variable {t bound}

theorem Rule.Call.StaysWithin.depth_le {c : Rule.Call E} (h : c.StaysWithin t bound) : c.depth ≤ bound :=
  h c .refl

theorem Rule.Call.StaysWithin.not_lt {c : Rule.Call E} (h : c.StaysWithin t bound) : ¬ bound < c.depth :=
  Nat.not_lt.mpr h.depth_le

theorem Rule.Call.StaysWithin.of_makes {c c' : Rule.Call E} (h : c.StaysWithin t bound)
    (hmakes : c.Makes t bound c') : c'.StaysWithin t bound :=
  fun c'' hleads => h c'' (.head hmakes hleads)

/-- A rule whose calls stay within the bound is walked as if there were none, if that is so of its
functions. -/
theorem Rule.walkAt_eq_walkFully_of_functions {r : Rule}
    (h : ∀ f ∈ r.functions, ∀ e depth, (Call.evaluate f e depth).StaysWithin t bound →
      f.evaluateAt t bound e depth = f.evaluateFully t e)
    {e : E} {depth : Nat} (hcalls : (Call.walk r e depth).StaysWithin t bound) :
    r.walkAt t bound e depth = r.walkFully t e := by
  have hdepth : ¬ bound < depth := hcalls.not_lt
  -- The walk calls the functions that are asked, and their calls stay within the bound as well.
  have hasked : ∀ f ∈ r.asked, f.evaluateAt t bound e (depth + 1) = f.evaluateFully t e := fun f hf =>
    h f (mem_functions_of_mem_asked hf) e _ (hcalls.of_makes (.asked r f e depth hcalls.depth_le hf))
  obtain ⟨shortcut, fields, malformed⟩ := r
  cases shortcut with
  | some f =>
    simp only [walkAt, hdepth, if_false, walkFully]
    exact hasked f (List.mem_singleton.mpr rfl)
  | none =>
    simp only [walkAt, hdepth, if_false, walkFully, walkFields_eq_map, walkFieldsFully_eq_map]
    congr 2
    apply List.map_congr_left
    intro p hp
    rw [hasked p.2 (List.mem_map.mpr ⟨p, hp, rfl⟩)]

theorem RuleFunction.evaluateAt_eq_evaluateFully_of_calls {f : RuleFunction} {e : E} {depth : Nat}
    (hcalls : (Rule.Call.evaluate f e depth).StaysWithin t bound) :
    f.evaluateAt t bound e depth = f.evaluateFully t e := by
  induction f generalizing e depth with
  | findOne selector rule ih =>
    have hdepth : ¬ bound < depth := hcalls.not_lt
    rcases hfind : t.find e selector with _ | _ | ⟨first, rest⟩ <;>
      simp only [evaluateAt, hdepth, if_false, evaluateFully, hfind]
    exact rule.walkAt_eq_walkFully_of_functions (fun f hf _ _ => ih f hf)
      (hcalls.of_makes (.findOne selector rule e first rest depth hcalls.depth_le hfind))
  | find selector rule ih =>
    have hdepth : ¬ bound < depth := hcalls.not_lt
    cases hfind : t.find e selector with
    | none => simp only [evaluateAt, hdepth, if_false, evaluateFully, hfind]
    | some found =>
      simp only [evaluateAt, hdepth, if_false, evaluateFully, hfind]
      congr 1
      apply List.map_congr_left
      intro d hd
      exact rule.walkAt_eq_walkFully_of_functions (fun f hf _ _ => ih f hf)
        (hcalls.of_makes (.find selector rule e d found depth hcalls.depth_le hfind hd))
  | nested rule ih =>
    have hdepth : ¬ bound < depth := hcalls.not_lt
    simp only [evaluateAt, hdepth, if_false, evaluateFully]
    exact rule.walkAt_eq_walkFully_of_functions (fun f hf _ _ => ih f hf)
      (hcalls.of_makes (.nested rule e depth hcalls.depth_le))
  | _ =>
    have hdepth : ¬ bound < depth := hcalls.not_lt
    simp only [evaluateAt, hdepth, if_false, evaluateFully]

/-- A rule whose calls stay within the bound is walked as if there were none. -/
theorem Rule.walkAt_eq_walkFully_of_calls {r : Rule} {e : E} {depth : Nat}
    (hcalls : (Call.walk r e depth).StaysWithin t bound) : r.walkAt t bound e depth = r.walkFully t e :=
  r.walkAt_eq_walkFully_of_functions (fun _ _ _ _ h => RuleFunction.evaluateAt_eq_evaluateFully_of_calls h)
    hcalls

end Within

/-! ## The height of written rules -/

theorem Rule.height_le_of_functions {r : Rule} {n : Nat} (h : ∀ f ∈ r.functions, f.height ≤ n) :
    r.height ≤ n + 1 := by
  obtain ⟨shortcut, fields, malformed⟩ := r
  obtain ⟨hshortcut, hfields⟩ := forall_functions_iff.mp h
  cases shortcut with
  | some f => exact Nat.succ_le_succ (hshortcut f rfl)
  | none =>
    rw [height]
    clear h hshortcut
    induction fields with
    | nil => exact Nat.zero_le _
    | cons p rest ih =>
      rw [fieldsHeight, Nat.max_le]
      obtain ⟨hp, hrest⟩ := List.forall_mem_cons.mp hfields
      exact ⟨Nat.succ_le_succ hp, ih hrest⟩

/-- A word takes a level for itself and those of the rule behind it. -/
theorem RuleFunction.height_ofWord_le (raw : Json) (word : String) (name : Option String) (rule : Rule) :
    (ofWord raw word name rule).height ≤ rule.height + 1 := by
  rcases Operator.tag_or_unknown word with ⟨op, rfl⟩ | ⟨hnone, -⟩
  · rw [ofWord_tag]
    cases op <;> cases name <;> simp [Operator.function?, height]
  · rw [ofWord_of_unknown hnone]
    exact Nat.zero_le _

/-- A word without a selector has no rule behind it. -/
theorem RuleFunction.height_ofWord_none (raw : Json) (word : String) (rule : Rule) :
    (ofWord raw word none rule).height = 0 := by
  rcases Operator.tag_or_unknown word with ⟨op, rfl⟩ | ⟨hnone, -⟩
  · rw [ofWord_tag]
    cases op <;> rfl
  · rw [ofWord_of_unknown hnone, height]

/-- What stands third behind a word is nested less deep than the array. -/
theorem Json.nesting_third_lt (word : String) (args : List Json) :
    (args[1]?.getD null).nesting < (arr (.str word :: args)).nesting :=
  Written.third_of_forall (Nat.succ_pos _) fun _ hitem => nesting_lt_of_mem_items hitem

/-- The functions of an object stand two levels below those around it: the object is one level deeper as a
function and one more as a rule. -/
theorem Rule.height_ofJson_le_and_height_ofJson_le (v : Json) (h : v.Ordered) :
    (Rule.ofJson v).height ≤ 2 * v.nesting - 1 ∧ (RuleFunction.ofJson v).height ≤ 2 * v.nesting := by
  induction v using Written.induction with
  | stray v hstray => cases hstray <;> exact ⟨Nat.zero_le _, Nat.zero_le _⟩
  | str word =>
    refine ⟨Nat.zero_le _, ?_⟩
    rw [RuleFunction.ofJson, RuleFunction.height_ofWord_none]
    exact Nat.zero_le _
  | arr word args ih =>
    refine ⟨Nat.zero_le _, ?_⟩
    have hword := RuleFunction.height_ofWord_le (.arr (.str word :: args)) word
      (args.head?.bind Json.name?) (Rule.ofJson (args[1]?.getD .null))
    have hrule := (ih h.third).1
    have hnesting := Json.nesting_third_lt word args
    rw [RuleFunction.ofJson_arr]
    omega
  | obj members ih =>
    obtain ⟨hkeys, hvalues⟩ := Json.ordered_obj.mp h
    have hfunctions : ∀ f ∈ (Rule.ofJson (.obj members)).functions,
        f.height ≤ 2 * ((Json.obj members).nesting - 1) := by
      rw [Rule.forall_functions_ofJson_obj hkeys]
      intro m hm
      have hfunction := (ih m hm (hvalues m hm)).2
      have hnesting := Json.nesting_lt_of_mem_members hm
      omega
    have hrule := Rule.height_le_of_functions hfunctions
    have hnesting : 0 < (Json.obj members).nesting := Nat.succ_pos _
    rw [RuleFunction.ofJson_obj, RuleFunction.height]
    constructor <;> omega

/-! ## Main result -/

/-- The limit on nesting bounds the height of what is read. -/
theorem Rule.height_of_read {s : String} {r : Rule} (h : read s = .ok r) :
    r.height ≤ 2 * Json.nestingLimit - 1 := by
  obtain ⟨v, hv, rfl⟩ := Json.exists_of_map_eq_ok h
  have hheight := (height_ofJson_le_and_height_ofJson_le v (Json.ordered_of_read hv)).1
  have hnesting := Json.nesting_of_read hv
  omega

/-- No call of the walk of a rule that was read from a text stands deeper than the default bound, so the
walk is the one without a bound. -/
theorem Rule.walk_of_read {s : String} {r : Rule} (h : read s = .ok r) (t : Accessors E) (e : E) :
    r.walk t defaultBound e = r.walkFully t e
      ∧ ∀ c, (Call.walk r e 0).Leads t defaultBound c → c.depth ≤ defaultBound := by
  have hlimit : 2 * Json.nestingLimit - 1 ≤ defaultBound := by decide
  have hcalls : (Call.walk r e 0).StaysWithin t defaultBound := by
    intro c hleads
    have hdepth : c.depth ≤ 0 + r.height := hleads.depth_le
    have hheight := height_of_read h
    omega
  exact ⟨walkAt_eq_walkFully_of_calls hcalls, hcalls⟩

/-- The texts of the items, with a rule that is read from a text. -/
theorem Rule.walk_of_read_of_items :
    let text := "\x7b\"items\":[\"find\",\"li\",\x7b\"_\":\"text\"\x7d]\x7d"
    let rule := mk none [("items", .find "li" (single .text))] none
    let page := (Html.Page.read "<ul><li>a<li>b</ul>").top
    read text = .ok rule
      ∧ rule.walk (Element.accessors id) defaultBound page = .obj [("items", .arr [.str "a", .str "b"])]
      ∧ ∀ c, (Call.walk rule page 0).Leads (Element.accessors id) defaultBound c →
        c.depth ≤ defaultBound := by
  intro text rule page
  have hread : read text = .ok rule := by decide +kernel
  obtain ⟨hwalk, hcalls⟩ := walk_of_read hread (Element.accessors id) page
  refine ⟨hread, ?_, hcalls⟩
  rw [hwalk]
  decide +kernel

end Gleaner
