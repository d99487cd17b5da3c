import Terraforming.Turn.Demand

/-!
# How demands are met

A demand is met with the next choice, if it needs one.  All that can come of it is listed here once
(`Demand.meet_cases`): the demand is skipped, refused, waits for a choice that is not there, or is carried
out with its answer (`Demand.Yields`), or an option takes the place of the impact.
-/

namespace Terraforming

/-- What a choice names among what is listed. -/
theorem filter_mem_iff {α : Type} [BEq α] [LawfulBEq α] {o : Option α} {as : List α} {a : α} :
    o.filter (· ∈ as) = some a ↔ o = some a ∧ a ∈ as := by
  rw [Option.filter_eq_some_iff, decide_eq_true_iff]

namespace Demand

/-- What choices to answer a demand lead to: the operations, and the bonuses of a tile. -/
inductive Yields {i : Impact} (b : Board) :
    Demand i → List Choice → List Operation → List Impact → Prop where
  | perform {ops : List Operation} : Yields b (.perform ops) [] ops []
  | place {ls : List Location} {ops : Location → List Operation} {c : Choice} {l : Location} :
      c.location = some l → l ∈ ls → Yields b (.place ls ops) [c] (ops l) (b.placementBonuses l)
  | aim {ps : List PlayerId} {ops : PlayerId → List Operation} {c : Choice} {p : PlayerId} :
      c.player = some p → p ∈ ps → Yields b (.aim ps ops) [c] (ops p) []
  | pick {ts : List (PlayerId × Int)} {ops : PlayerId × Int → Except Refusal (List Operation)}
      {c : Choice} {t : PlayerId × Int} {os : List Operation} :
      c.card? = some t → t ∈ ts → ops t = .ok os → Yields b (.pick ts ops) [c] os []

/-- How far a demand gets with some choices. -/
inductive Meets {i : Impact} (b : Board) : Demand i → (cs : List Choice) → Met i cs → Prop where
  | skipped {cs : List Choice} : Meets b .skip cs .skipped
  | refused {d : Demand i} {cs : List Choice} {r : Refusal} : Meets b d cs (.refused r)
  | waiting {d : Demand i} {options : Options} : Meets b d [] (.waiting options)
  | performed {cs : List Choice} {ops : List Operation} : Meets b (.perform ops) cs (.performed ops)
  | answered {d : Demand i} {c : Choice} {cs : List Choice} {ops : List Operation}
      {more : List Impact} {used : cs.length < (c :: cs).length} : d.Yields b [c] ops more →
      Meets b d (c :: cs) (.answered ops more cs used)
  | replaced {c : Choice} {cs : List Choice} {j : Impact} {mem : j ∈ i.options} {n : Int} :
      c.option = some n → 0 ≤ n → i.options[n.toNat]? = some j →
      Meets b .choose (c :: cs) (.replaced j mem cs)

variable {i : Impact} {d : Demand i} {b : Board} {cs rest answer : List Choice}
  {ops : List Operation} {more : List Impact}

theorem meet_cases (d : Demand i) (b : Board) (cs : List Choice) : d.Meets b cs (d.meet b cs) := by
  cases d with
  | skip => exact .skipped
  | refuse r => exact .refused
  | perform ops => exact .performed
  | place ls ops =>
    cases cs with
    | nil => exact .waiting
    | cons c cs =>
      simp only [meet]
      split
      next l answer =>
        obtain ⟨named, legal⟩ := filter_mem_iff.1 answer
        exact .answered (.place named legal)
      next => exact .refused
  | aim ps ops =>
    cases cs with
    | nil => exact .waiting
    | cons c cs =>
      simp only [meet]
      split
      next p answer =>
        obtain ⟨named, legal⟩ := filter_mem_iff.1 answer
        exact .answered (.aim named legal)
      next => exact .refused
  | pick ts ops =>
    cases cs with
    | nil => exact .waiting
    | cons c cs =>
      simp only [meet]
      split
      next t answer =>
        obtain ⟨named, legal⟩ := filter_mem_iff.1 answer
        split
        next os ho => exact .answered (.pick named legal ho)
        next => exact .refused
      next => exact .refused
  | choose =>
    cases cs with
    | nil => exact .waiting
    | cons c cs =>
      simp only [meet]
      split
      next => exact .refused
      next n answer =>
        obtain ⟨named, nonneg⟩ := Option.filter_eq_some_iff.1 answer
        split
        next below =>
          exact .replaced named (of_decide_eq_true nonneg) (List.getElem?_eq_getElem below)
        next => exact .refused

theorem eq_skip_of_skipped (h : d.meet b cs = .skipped) : d = .skip := by
  have meets := d.meet_cases b cs
  rw [h] at meets
  cases meets
  rfl

theorem yields_of_performed (h : d.meet b cs = .performed ops) : d.Yields b [] ops [] := by
  have meets := d.meet_cases b cs
  rw [h] at meets
  cases meets
  exact .perform

theorem yields_of_answered {used : rest.length < cs.length}
    (h : d.meet b cs = .answered ops more rest used) :
    ∃ c, cs = c :: rest ∧ d.Yields b [c] ops more := by
  have meets := d.meet_cases b cs
  rw [h] at meets
  cases meets with
  | answered yields => exact ⟨_, rfl, yields⟩

/-- An option takes the place of an impact when the next choice names it. -/
theorem choose_of_replaced {j : Impact} {mem : j ∈ i.options}
    (h : d.meet b cs = .replaced j mem rest) :
    d = .choose ∧ ∃ c n, cs = c :: rest ∧ c.option = some n ∧ 0 ≤ n ∧
      i.options[n.toNat]? = some j := by
  have meets := d.meet_cases b cs
  rw [h] at meets
  cases meets with
  | replaced named nonneg there => exact ⟨rfl, _, _, rfl, named, nonneg, there⟩

/-- Only a tile brings bonuses, and they are those of its location. -/
theorem Yields.bonuses (h : d.Yields b answer ops more) :
    more = [] ∨ ∃ l, more = b.placementBonuses l := by
  cases h with
  | place => exact .inr ⟨_, rfl⟩
  | _ => exact .inl rfl

end Demand

end Terraforming
