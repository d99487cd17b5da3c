import Mathlib.Data.List.Perm.Basic
import Terraforming.Proofs.Data.Except
import Terraforming.Proofs.Data.Table
import Terraforming.Proofs.Game.Commands

/-!
# Whom an award pays

An award is scored by the places that scores have among each other; what it is for is the players.  The
first prize goes to everybody of whom nobody has more, and the second prize, which is only paid behind a
lone leader, to everybody of whom nobody but the leader has more.  That is said of players and not of
scores, so it does not matter in which order they sit.

* `Award.Leads`, `Award.Follows`, `Award.prize` — who is paid, and how much;
* `Award.max?_of_ranking` — what comes first and second in the ranking of scores;
* `Award.pointsOf_eq_prize` — which is what the ranking of scores comes to;
* `awards_ranked` — so for every list of players, and for everything that a player scores in a game.
-/

namespace Terraforming

namespace Award

variable {a : Award} {players players' : List Player} {b : Board} {q leader : Player}

/-! ## Who is paid -/

/-- Nobody has more of what the award counts. -/
def Leads (a : Award) (players : List Player) (b : Board) (q : Player) : Prop :=
  ∀ r ∈ players, a.metric r b ≤ a.metric q b

/-- The player has more than every other. -/
def LeadsAlone (a : Award) (players : List Player) (b : Board) (q : Player) : Prop :=
  ∀ r ∈ players, r ≠ q → a.metric r b < a.metric q b

/-- Another player leads alone, and of the others nobody has more. -/
def Follows (a : Award) (players : List Player) (b : Board) (q : Player) : Prop :=
  ∃ leader ∈ players, a.LeadsAlone players b leader ∧ q ≠ leader ∧
    ∀ r ∈ players, r ≠ leader → a.metric r b ≤ a.metric q b

instance : Decidable (a.Leads players b q) :=
  inferInstanceAs (Decidable (∀ r ∈ players, a.metric r b ≤ a.metric q b))

instance : Decidable (a.LeadsAlone players b q) :=
  inferInstanceAs (Decidable (∀ r ∈ players, r ≠ q → a.metric r b < a.metric q b))

instance : Decidable (a.Follows players b q) :=
  inferInstanceAs (Decidable (∃ leader ∈ players, a.LeadsAlone players b leader ∧ q ≠ leader ∧
    ∀ r ∈ players, r ≠ leader → a.metric r b ≤ a.metric q b))

/-- What the award pays a player. -/
def prize (a : Award) (players : List Player) (b : Board) (q : Player) : Int :=
  if a.Leads players b q then 5 else if a.Follows players b q then 2 else 0

/-- The prize depends on who plays, and not on the order. -/
theorem prize_perm (same : players.Perm players') : a.prize players b q = a.prize players' b q := by
  have leads : a.Leads players b q ↔ a.Leads players' b q := by
    simp only [Leads, same.mem_iff]
  have follows : a.Follows players b q ↔ a.Follows players' b q := by
    simp only [Follows, LeadsAlone, same.mem_iff]
  simp only [prize, leads, follows]

/-- Whoever follows does not lead. -/
theorem Follows.not_leads (follows : a.Follows players b q) (hq : q ∈ players) :
    ¬a.Leads players b q := by
  obtain ⟨leader, hl, alone, other, -⟩ := follows
  exact fun leads => Int.not_le.2 (alone q hq other) (leads leader hl)

theorem prize_eq_five_iff : a.prize players b q = 5 ↔ a.Leads players b q := by
  unfold prize
  split_ifs with leads follows
  · exact iff_of_true rfl leads
  · exact iff_of_false (by decide) leads
  · exact iff_of_false (by decide) leads

theorem prize_eq_two_iff (hq : q ∈ players) : a.prize players b q = 2 ↔ a.Follows players b q := by
  unfold prize
  split_ifs with leads follows
  · exact iff_of_false (by decide) fun follows => follows.not_leads hq leads
  · exact iff_of_true rfl follows
  · exact iff_of_false (by decide) follows

theorem prize_eq_zero_iff :
    a.prize players b q = 0 ↔ ¬a.Leads players b q ∧ ¬a.Follows players b q := by
  unfold prize
  split_ifs with leads follows
  · exact iff_of_false (by decide) fun neither => neither.1 leads
  · exact iff_of_false (by decide) fun neither => neither.2 follows
  · exact iff_of_true rfl ⟨leads, follows⟩

/-! ## Places among scores -/

/-- The ranking goes strictly down, and there is nothing in it but the scores. -/
theorem ranking_spec (scores : List Int) :
    (ranking scores).Pairwise (fun m n => n < m) ∧ ∀ n, n ∈ ranking scores ↔ n ∈ scores := by
  have sorted : (ranking scores).Pairwise fun m n => decide (n ≤ m) = true :=
    List.pairwise_mergeSort (by grind) (by grind) _
  have once : (ranking scores).Nodup :=
    (List.mergeSort_perm _ _).nodup_iff.2 (Table.nodup_keys _)
  refine ⟨(sorted.and once).imp ?_, fun n => List.mem_mergeSort.trans KeySet.mem_keys_ofList⟩
  rintro m n ⟨le, ne⟩
  exact Int.lt_iff_le_and_ne.2 ⟨of_decide_eq_true le, ne.symm⟩

/-- The first in the ranking is the greatest score, and the next one the greatest of the others. -/
theorem max?_of_ranking {scores others : List Int} {best : Int}
    (h : ranking scores = best :: others) :
    scores.max? = some best ∧ (scores.filter (· ≠ best)).max? = others.head? := by
  obtain ⟨down, among⟩ := ranking_spec scores
  rw [h] at down among
  obtain ⟨below, down⟩ := List.pairwise_cons.1 down
  have rest : ∀ n, n ∈ scores.filter (· ≠ best) ↔ n ∈ others := by
    intro n
    simp only [List.mem_filter, decide_eq_true_eq, ← among n, List.mem_cons]
    constructor
    · rintro ⟨here, other⟩
      exact here.resolve_left other
    · exact fun here => ⟨.inr here, Int.ne_of_lt (below n here)⟩
  constructor
  · refine List.max?_eq_some_iff.2 ⟨(among best).1 List.mem_cons_self, fun n hn => ?_⟩
    rcases List.mem_cons.1 ((among n).2 hn) with rfl | hn
    · exact Int.le_refl n
    · exact Int.le_of_lt (below n hn)
  · cases others with
    | nil =>
      have none : scores.filter (· ≠ best) = [] :=
        List.eq_nil_iff_forall_not_mem.2 fun n hn => List.not_mem_nil ((rest n).1 hn)
      rw [none]
      rfl
    | cons second others =>
      refine List.max?_eq_some_iff.2 ⟨(rest second).2 List.mem_cons_self, fun n hn => ?_⟩
      rcases List.mem_cons.1 ((rest n).1 hn) with rfl | hn
      · exact Int.le_refl n
      · exact Int.le_of_lt ((List.pairwise_cons.1 down).1 n hn)

/-- So the points go by the greatest score and the greatest of the others. -/
theorem pointsAmong_of_max? {scores : List Int} {best : Int} (h : scores.max? = some best)
    (score : Int) :
    pointsAmong scores score = if score = best then firstPlace
      else if scores.count best = 1 ∧ (scores.filter (· ≠ best)).max? = some score then secondPlace
      else 0 := by
  unfold pointsAmong
  split
  next none =>
    have there := ((ranking_spec scores).2 best).2 (List.max?_eq_some_iff.1 h).1
    rw [none] at there
    cases there
  next first others ranked =>
    obtain ⟨greatest, next⟩ := max?_of_ranking ranked
    cases greatest.symm.trans h
    rw [next]

/-- The scores of the players. -/
def scoresOf (a : Award) (players : List Player) (b : Board) : List Int :=
  players.map fun r => a.metric r b

theorem forall_mem_scoresOf {P : Int → Prop} :
    (∀ s ∈ a.scoresOf players b, P s) ↔ ∀ r ∈ players, P (a.metric r b) :=
  List.forall_mem_map

/-- A score is the greatest exactly if whoever has it leads. -/
theorem max?_scoresOf (hq : q ∈ players) :
    (a.scoresOf players b).max? = some (a.metric q b) ↔ a.Leads players b q := by
  rw [List.max?_eq_some_iff, forall_mem_scoresOf]
  exact and_iff_right (List.mem_map_of_mem hq)

/-- The greatest score is there once exactly if whoever has it leads alone. -/
theorem count_scoresOf (distinct : players.Nodup) (hq : q ∈ players) (leads : a.Leads players b q) :
    (a.scoresOf players b).count (a.metric q b) = 1 ↔ a.LeadsAlone players b q := by
  obtain ⟨before, after, rfl⟩ := List.append_of_mem hq
  have others : (before ++ q :: after).Perm (q :: (before ++ after)) := List.perm_middle
  obtain ⟨new, -⟩ := List.nodup_cons.1 (others.nodup_iff.1 distinct)
  have once : (a.scoresOf (before ++ q :: after) b).count (a.metric q b) =
      (a.scoresOf (before ++ after) b).count (a.metric q b) + 1 := by
    rw [scoresOf, (others.map _).count_eq, List.map_cons, List.count_cons_self, scoresOf]
  rw [once, Nat.add_eq_right, List.count_eq_zero, scoresOf, List.mem_map]
  constructor
  · intro alone r hr other
    have rest := (List.mem_cons.1 (others.mem_iff.1 hr)).resolve_left other
    exact Int.lt_iff_le_and_ne.2 ⟨leads r hr, fun same => alone ⟨r, rest, same⟩⟩
  · rintro alone ⟨r, hr, same⟩
    have other : r ≠ q := fun here => new (here ▸ hr)
    exact Int.ne_of_lt (alone r (others.mem_iff.2 (List.mem_cons_of_mem q hr)) other) same

/-- Behind a lone leader a score is the greatest exactly if nobody else has more. -/
theorem max?_filter_scoresOf (alone : a.LeadsAlone players b leader) (hq : q ∈ players) :
    ((a.scoresOf players b).filter (· ≠ a.metric leader b)).max? = some (a.metric q b) ↔
      q ≠ leader ∧ ∀ r ∈ players, r ≠ leader → a.metric r b ≤ a.metric q b := by
  have other : ∀ r ∈ players, a.metric r b ≠ a.metric leader b ↔ r ≠ leader := fun r hr =>
    ⟨fun ne same => ne (same ▸ rfl), fun ne => Int.ne_of_lt (alone r hr ne)⟩
  rw [List.max?_eq_some_iff]
  simp only [List.mem_filter, decide_eq_true_eq, and_imp, other q hq]
  rw [forall_mem_scoresOf]
  refine and_congr (and_iff_right (List.mem_map_of_mem hq)) (forall₂_congr fun r hr => ?_)
  rw [other r hr]

/-- The place of a score among the scores of the players is the place of whoever has it. -/
theorem pointsAmong_scoresOf (distinct : players.Nodup) (hq : q ∈ players) :
    pointsAmong (a.scoresOf players b) (a.metric q b) = a.prize players b q := by
  obtain ⟨leader, hl, leads⟩ : ∃ leader ∈ players, a.Leads players b leader := by
    have ne : a.scoresOf players b ≠ [] := List.ne_nil_of_mem (List.mem_map_of_mem hq)
    obtain ⟨best, hbest⟩ := Option.ne_none_iff_exists'.1 (mt List.max?_eq_none_iff.1 ne)
    obtain ⟨leader, hl, rfl⟩ := List.mem_map.1 (List.max?_eq_some_iff.1 hbest).1
    exact ⟨leader, hl, (max?_scoresOf hl).1 hbest⟩
  have first : a.metric q b = a.metric leader b ↔ a.Leads players b q := by
    constructor
    · intro same r hr
      exact same ▸ leads r hr
    · exact fun q_leads => Int.le_antisymm (leads q hq) (q_leads leader hl)
  have second : (a.scoresOf players b).count (a.metric leader b) = 1 ∧
      ((a.scoresOf players b).filter (· ≠ a.metric leader b)).max? = some (a.metric q b) ↔
        a.Follows players b q := by
    rw [count_scoresOf distinct hl leads]
    constructor
    · rintro ⟨alone, next⟩
      exact ⟨leader, hl, alone, (max?_filter_scoresOf alone hq).1 next⟩
    · rintro ⟨r, hr, alone, rest⟩
      -- a lone leader is the leader that the scores were compared with
      have same : leader = r := by
        by_contra ne
        exact Int.not_le.2 (alone leader hl ne) (leads r hr)
      subst same
      exact ⟨alone, (max?_filter_scoresOf alone hq).2 rest⟩
  rw [pointsAmong_of_max? ((max?_scoresOf hl).2 leads)]
  simp only [first, second, prize, firstPlace, secondPlace]

/-- **The ranking pays the prizes.** -/
theorem pointsOf_eq_prize (distinct : (players.map Player.id).Nodup) :
    a.pointsOf players b = players.map fun q => (q.id, a.prize players b q) := by
  have scores : (players.map fun p => (p.id, a.metric p b)).map (·.2) = a.scoresOf players b := by
    rw [List.map_map]
    rfl
  have listed : (Ledger.ofList (players.map fun p => (p.id, a.metric p b))).entries =
      players.map fun p => (p.id, a.metric p b) :=
    Ledger.entries_ofList (by rwa [List.map_map])
  rw [pointsOf, listed, scores, List.map_map]
  refine List.map_congr_left fun q hq => ?_
  exact congrArg _ (pointsAmong_scoresOf (.of_map _ distinct) hq)

end Award

namespace Game

variable {g : Game} {p : PlayerId} {q : Player}

/-- The awards that were funded. -/
def awards (g : Game) : List Award := g.funded.keys.filterMap Vocabulary.ofWord?

/-- What a funded award pays a player. -/
theorem awardPointsOf_eq {name : String} {a : Award} (known : Vocabulary.ofWord? name = some a)
    (distinct : (g.players.values.map Player.id).Nodup) (hq : q ∈ g.players.values) :
    g.awardPointsOf q.id name = .ok (a.prize g.players.values g.board q) := by
  let paid : Ledger PlayerId Int :=
    ⟨g.players.values.map fun r => (r.id, a.prize g.players.values g.board r), by
      rwa [List.map_map]⟩
  have found : paid.get? q.id = some (a.prize g.players.values g.board q) :=
    Ledger.get?_eq_some_iff.2 (List.mem_map_of_mem hq)
  simp only [awardPointsOf, awardPoints, known, ok_bind, Award.pointsOf_eq_prize distinct]
  exact congrArg (fun n => Except.ok (n.getD 0)) found

/-- What all funded awards pay a player. -/
theorem awardPoints_total (known : ∀ name ∈ g.funded.keys,
      (Vocabulary.ofWord? (α := Award) name).isSome = true)
    (distinct : (g.players.values.map Player.id).Nodup) (hq : q ∈ g.players.values) :
    ∃ ns, g.funded.keys.mapM (g.awardPointsOf q.id) = .ok ns ∧
      total ns = total (g.awards.map fun a => a.prize g.players.values g.board q) := by
  unfold awards
  generalize g.funded.keys = names at known ⊢
  induction names with
  | nil => exact ⟨[], rfl, rfl⟩
  | cons name names ih =>
    obtain ⟨first, known⟩ := List.forall_mem_cons.1 known
    obtain ⟨a, ha⟩ := Option.isSome_iff_exists.1 first
    obtain ⟨ns, hns, sum⟩ := ih known
    refine ⟨a.prize g.players.values g.board q :: ns, ?_, ?_⟩
    · rw [List.mapM_cons, awardPointsOf_eq ha distinct hq, hns]
      rfl
    · rw [List.filterMap_cons_some ha, List.map_cons, total_cons, total_cons, sum]

/-- Everything that a player scores. -/
theorem points_eq (known : ∀ name ∈ g.funded.keys,
      (Vocabulary.ofWord? (α := Award) name).isSome = true)
    (distinct : (g.players.values.map Player.id).Nodup) (hq : g.player? q.id = some q) :
    g.points q.id = (q.played.mapM (q.cardPoints g.board)).map fun cards =>
      q.rating + total cards + q.tilePoints g.board + 5 * g.claimed.values.count q.id +
        total (g.awards.map fun a => a.prize g.players.values g.board q) := by
  have seated : q ∈ g.players.values := List.mem_map_of_mem (Table.get?_eq_some_iff.1 hq)
  obtain ⟨ns, paid, sum⟩ := awardPoints_total known distinct seated
  rw [points, player_eq_ok.2 hq, ok_bind, Player.points]
  cases q.played.mapM (q.cardPoints g.board) with
  | error f => rfl
  | ok cards =>
    simp only [ok_bind, pure_eq_ok, paid, sum]
    rfl

/-- **Awards pay by rank.**  Among players with different ids an award pays 5 to exactly those of whom
nobody has more, and 2 to exactly those who come next behind a lone leader; the others get nothing, and
the order of the players makes no difference.  What a player scores is the rating, the points of the
cards in play and of the tiles, 5 for each milestone that the player claimed, and these prizes for every
award that was funded by anybody, unless the points of a card make no sense. -/
theorem awards_ranked :
    (∀ (a : Award) (b : Board) (players : List Player), (players.map Player.id).Nodup →
      a.pointsOf players b = (players.map fun q => (q.id, a.prize players b q)) ∧
        (∀ q ∈ players, (a.prize players b q = 5 ↔ a.Leads players b q) ∧
          (a.prize players b q = 2 ↔ a.Follows players b q) ∧
          (a.prize players b q = 0 ↔ ¬a.Leads players b q ∧ ¬a.Follows players b q)) ∧
        ∀ players', players.Perm players' → (a.pointsOf players' b).Perm (a.pointsOf players b)) ∧
    ∀ (g : Game) (q : Player),
      (∀ name ∈ g.funded.keys, (Vocabulary.ofWord? (α := Award) name).isSome = true) →
      (g.players.values.map Player.id).Nodup → g.player? q.id = some q →
      g.points q.id = (q.played.mapM (q.cardPoints g.board)).map fun cards =>
        q.rating + total cards + q.tilePoints g.board + 5 * g.claimed.values.count q.id +
          total (g.awards.map fun a => a.prize g.players.values g.board q) := by
  refine ⟨fun a b players distinct => ⟨Award.pointsOf_eq_prize distinct, fun q hq => ?_, ?_⟩,
    fun g q known distinct hq => points_eq known distinct hq⟩
  · exact ⟨Award.prize_eq_five_iff, Award.prize_eq_two_iff hq, Award.prize_eq_zero_iff⟩
  · intro players' same
    have distinct' : (players'.map Player.id).Nodup := (same.map _).nodup_iff.1 distinct
    rw [Award.pointsOf_eq_prize distinct, Award.pointsOf_eq_prize distinct']
    simp only [Award.prize_perm same.symm]
    exact (same.map _).symm

/-- Three players on a bare board: one has the most heat, and the others have as much as each other.  The
second funded an award, and the third claimed a milestone. -/
def heatwave : Game where
  board := Board.Contents.board { spaces := [] }
  players := Table.ofList [(1, { id := 1, resources := Pool.zero.insert .heat 7 }),
    (2, { id := 2, resources := Pool.zero.insert .heat 4 }),
    (3, { id := 3, resources := Pool.zero.insert .heat 4 })]
  claimed := .ofList [("Terraformer", 3)]
  funded := .ofList [("Thermalist", 2)]

/-- In `heatwave` the lone leader gets the first prize, and both of the others the second. -/
theorem awards_ranked_heatwave :
    (heatwave.players.values.map Player.id).Nodup ∧
      Award.thermalist.pointsOf heatwave.players.values heatwave.board = [(1, 5), (2, 2), (3, 2)] ∧
      heatwave.points 1 = .ok 25 ∧ heatwave.points 3 = .ok 27 := by
  have distinct : (heatwave.players.values.map Player.id).Nodup := by decide +kernel
  have known : ∀ name ∈ heatwave.funded.keys,
      (Vocabulary.ofWord? (α := Award) name).isSome = true := by
    decide +kernel
  obtain ⟨ranking, scoring⟩ := awards_ranked
  refine ⟨distinct, ?_, ?_, ?_⟩
  · rw [(ranking .thermalist heatwave.board _ distinct).1]
    decide +kernel
  · refine (scoring heatwave { id := 1, resources := Pool.zero.insert .heat 7 } known distinct rfl).trans ?_
    decide +kernel
  · refine (scoring heatwave { id := 3, resources := Pool.zero.insert .heat 4 } known distinct rfl).trans ?_
    decide +kernel

end Game

end Terraforming
