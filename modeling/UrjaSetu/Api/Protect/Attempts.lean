import UrjaSetu.Api.Protect
import UrjaSetu.Library.Binary64Order

/-!
The limit on sign-in attempts over any sequence of requests.

Owns: how many attempts of a host are ever recent, what a refused one finds, and that
the hosts have nothing to do with each other.
-/

namespace UrjaSetu.Api.Protect

open UrjaSetu.Db.Models UrjaSetu.Library UrjaSetu.Services.AuthService

variable {texts : Texts} {settings : Settings} {arrival : Arrival} {arrivals : List Arrival}
  {gate next : Gate} {host : String}

private theorem recent_fades : SlidingWindow.Fades recent := by
  intro earlier later stamp onward isRecent
  simp only [recent, decide_eq_true_eq] at isRecent ⊢
  rcases le_total 0 (earlier - stamp) with after | before
  · exact (Binary64.double_mono_of_nonneg after (by linarith)).trans_lt isRecent
  · have reflected := Binary64.double_mono_of_nonneg le_rfl (neg_nonneg.mpr before)
    rw [Binary64.double_zero, Binary64.double_neg] at reflected
    linarith

/-! ## The limit on attempts -/

/-- When the stored attempts of the host were made. -/
def Gate.attemptsOf (gate : Gate) (host : String) : List ℚ :=
  (gate.accepted.filter fun attempt => attempt.1 = host).map Prod.snd

/-- Of every host, what is stored holds its recent attempts. -/
def Counted (last : ℚ) (gate : Gate) : Prop :=
  ∀ host, SlidingWindow.Holds recent LIMIT last (gate.attemptsOf host) (gate.stored host)

private theorem counted_initial (last : ℚ) : Counted last Gate.initial :=
  fun _ => SlidingWindow.Holds.start recent LIMIT last

private theorem attempt_eq_some {key : String} {clock : ℕ → ℚ}
    (attempted : gate.attempt key clock = some next) :
    SlidingWindow.offer recent LIMIT clock (gate.stored key) = some (next.stored key) ∧
      next.attemptsOf key = gate.attemptsOf key ++ [clock (gate.stored key).length] ∧
      ∀ other, other ≠ key → next.stored other = gate.stored other ∧
        next.attemptsOf other = gate.attemptsOf other := by
  obtain ⟨kept, admitted, rfl⟩ := Option.map_eq_some_iff.mp attempted
  refine ⟨?_, ?_, ?_⟩
  · simpa [Gate.stored] using admitted
  · simp [Gate.attemptsOf]
  · intro other different
    simp [Gate.stored, Gate.attemptsOf, Dict.get?_set, different, different.symm]

/-- Step. -/
theorem Counted.protect {last : ℚ} (counted : Counted last gate) (monotone : Monotone arrival.clock)
    (onward : last ≤ arrival.clock 0) (texts : Texts) (settings : Settings) :
    ∃ index, Counted (arrival.clock index) (Protect.protect texts settings arrival gate).2 := by
  rcases protect_cases texts settings arrival gate with
    ⟨next, attempted, isNext, _⟩ | ⟨_, refused⟩ | ⟨unchanged, _⟩
  · obtain ⟨admitted, observed, others⟩ := attempt_eq_some attempted
    refine ⟨(gate.stored arrival.request.key).length, ?_⟩
    rw [isNext]
    intro host
    by_cases own : host = arrival.request.key
    · rw [own, observed]
      exact (counted _).accept recent_fades monotone onward admitted
    · rw [(others host own).1, (others host own).2]
      exact (counted host).later (onward.trans (monotone (Nat.zero_le _)))
  · rw [refused]
    exact ⟨0, fun host => (counted host).later onward⟩
  · rw [unchanged]
    exact ⟨0, fun host => (counted host).later onward⟩

/-- The clock never goes back, within a request or from one to the next. -/
structure InOrder (start : ℚ) (arrivals : List Arrival) : Prop where
  monotone : ∀ arrival ∈ arrivals, Monotone arrival.clock
  started : ∀ arrival ∈ arrivals, start ≤ arrival.clock 0
  onward : arrivals.Pairwise fun earlier later => ∀ index, earlier.clock index ≤ later.clock 0

private theorem after_concat (gate : Gate) (arrivals : List Arrival) (arrival : Arrival) :
    gate.after texts settings (arrivals ++ [arrival]) =
      (protect texts settings arrival (gate.after texts settings arrivals)).2 := by
  simp [Gate.after]

private theorem InOrder.of_append {start : ℚ} {later : List Arrival}
    (inOrder : InOrder start (arrivals ++ later)) : InOrder start arrivals where
  monotone := fun arrival member => inOrder.monotone arrival (List.mem_append_left _ member)
  started := fun arrival member => inOrder.started arrival (List.mem_append_left _ member)
  onward := (List.pairwise_append.mp inOrder.onward).1

/-- Run. -/
theorem InOrder.counted {start : ℚ} (inOrder : InOrder start arrivals) (texts : Texts)
    (settings : Settings) :
    ∃ last, (last = start ∨ ∃ arrival ∈ arrivals, ∃ index, last = arrival.clock index) ∧
      Counted last (Gate.initial.after texts settings arrivals) := by
  induction arrivals using List.reverseRecOn with
  | nil => exact ⟨start, Or.inl rfl, counted_initial start⟩
  | append_singleton arrivals arrival inductionHypothesis =>
      obtain ⟨last, seen, counted⟩ := inductionHypothesis inOrder.of_append
      have onward : last ≤ arrival.clock 0 := by
        rcases seen with rfl | ⟨earlier, member, index, rfl⟩
        · exact inOrder.started arrival (by simp)
        · exact (List.pairwise_append.mp inOrder.onward).2.2 earlier member arrival (by simp) index
      obtain ⟨index, next⟩ := counted.protect (inOrder.monotone arrival (by simp)) onward texts settings
      refine ⟨arrival.clock index, Or.inr ⟨arrival, by simp, index, rfl⟩, ?_⟩
      rw [after_concat]
      exact next

/-- Over any sequence of requests, no more than `LIMIT` sign-in attempts of a host are
recent at any moment; and one that is refused as too many finds exactly so many
recent when it comes. -/
theorem attempts_limited {start : ℚ} (inOrder : InOrder start arrivals) (host : String) :
    (∀ now, (((Gate.initial.after texts settings arrivals).attemptsOf host).filter
      fun stamp => stamp ≤ now && recent now stamp).length ≤ LIMIT) ∧
    ∀ earlier arrival later, arrivals = earlier ++ arrival :: later → arrival.request.key = host →
      (protect texts settings arrival (Gate.initial.after texts settings earlier)).1 = tooMany →
        (((Gate.initial.after texts settings earlier).attemptsOf host).filter
          (recent (arrival.clock 0))).length = LIMIT := by
  constructor
  · obtain ⟨last, _, counted⟩ := inOrder.counted texts settings
    exact (counted host).bounded
  · intro earlier arrival later split isHost refused
    have inOrderUntil : InOrder start (earlier ++ [arrival]) := by
      rw [split, show earlier ++ arrival :: later = (earlier ++ [arrival]) ++ later by simp] at inOrder
      exact inOrder.of_append
    obtain ⟨last, seen, counted⟩ := inOrderUntil.of_append.counted texts settings
    have onward : last ≤ arrival.clock 0 := by
      rcases seen with rfl | ⟨before, member, index, rfl⟩
      · exact inOrderUntil.started arrival (by simp)
      · exact (List.pairwise_append.mp inOrderUntil.onward).2.2 before member arrival (by simp) index
    have monotone : Monotone arrival.clock := inOrderUntil.monotone arrival (by simp)
    have stopped : (Gate.initial.after texts settings earlier).attempt host arrival.clock = none := by
      rcases protect_cases texts settings arrival (Gate.initial.after texts settings earlier) with
        ⟨_, _, _, other⟩ | ⟨stopped, _⟩ | ⟨_, other⟩
      · exact absurd refused other
      · exact isHost ▸ stopped
      · exact absurd refused other
    apply le_antisymm
    · refine le_of_eq_of_le ?_ ((counted host).bounded (arrival.clock 0))
      congr 1
      apply List.filter_congr
      intro stamp member
      simp [((counted host).past stamp member).trans onward]
    · exact (counted host).refused recent_fades monotone (Option.map_eq_none_iff.mp stopped)

/-- An attempt to sign in at this second. -/
def sampleArrival (second : ℕ) : Arrival :=
  ⟨sampleRequest "POST" "/api/v1/auth/login", fun _ => second, Accounts.initial Table.empty, 0⟩

private theorem sampleArrivals_inOrder (count : ℕ) :
    InOrder 0 ((List.range count).map sampleArrival) where
  monotone := by
    simp only [List.mem_map]
    rintro _ ⟨second, _, rfl⟩
    exact monotone_const
  started := by
    simp only [List.mem_map]
    rintro _ ⟨second, _, rfl⟩
    exact Nat.cast_nonneg second
  onward := by
    rw [List.pairwise_map]
    apply List.pairwise_lt_range.imp
    intro earlier later before index
    exact Nat.cast_le.mpr before.le

theorem attempts_limited_sample :
    (∀ now, (((Gate.initial.after sampleTexts ⟨"production", false, []⟩
      ((List.range 21).map sampleArrival)).attemptsOf "h").filter
        fun stamp => stamp ≤ now && recent now stamp).length ≤ LIMIT) ∧
    (((Gate.initial.after sampleTexts ⟨"production", false, []⟩
      ((List.range 20).map sampleArrival)).attemptsOf "h").filter (recent 20)).length = LIMIT := by
  have limited := @attempts_limited sampleTexts ⟨"production", false, []⟩ _ 0
    (sampleArrivals_inOrder 21) "h"
  refine ⟨limited.1, limited.2 _ (sampleArrival 20) [] (by rfl) rfl ?_⟩
  decide +kernel

/-! ## Hosts -/

/-- The verdict on a request, and what is stored of its host then, depend on nothing
but what was stored of that host. -/
theorem protect_congr {other : Gate}
    (same : gate.stored arrival.request.key = other.stored arrival.request.key) :
    (protect texts settings arrival gate).1 = (protect texts settings arrival other).1 ∧
      (protect texts settings arrival gate).2.stored arrival.request.key =
        (protect texts settings arrival other).2.stored arrival.request.key := by
  dsimp only [protect]
  split
  · split
    · exact ⟨rfl, same⟩
    · by_cases signsIn : arrival.request.signsIn = true
      · simp only [if_pos signsIn]
        cases left : gate.attempt arrival.request.key arrival.clock with
        | none =>
            have right : other.attempt arrival.request.key arrival.clock = none := by
              rw [Gate.attempt, Option.map_eq_none_iff] at left ⊢
              rw [← same]
              exact left
            rw [right]
            exact ⟨rfl, same⟩
        | some next =>
            have admitted := (attempt_eq_some left).1
            rw [same] at admitted
            have right : ∃ answer, other.attempt arrival.request.key arrival.clock = some answer := by
              rw [Gate.attempt, admitted]
              exact ⟨_, rfl⟩
            obtain ⟨answer, right⟩ := right
            have stored : next.stored arrival.request.key = answer.stored arrival.request.key :=
              Option.some.inj (admitted.symm.trans (attempt_eq_some right).1)
            rw [right]
            dsimp only
            repeat' split
            all_goals exact ⟨rfl, stored⟩
      · simp only [if_neg signsIn]
        repeat' split
        all_goals exact ⟨rfl, same⟩
  · exact ⟨rfl, same⟩

private theorem protect_others (other : arrival.request.key ≠ host) :
    (protect texts settings arrival gate).2.stored host = gate.stored host := by
  rcases protect_cases texts settings arrival gate with
    ⟨next, attempted, isNext, _⟩ | ⟨_, refused⟩ | ⟨unchanged, _⟩
  · rw [isNext]
    exact ((attempt_eq_some attempted).2.2 host other.symm).1
  · rw [refused]
  · rw [unchanged]

/-- The verdicts on the requests of one host are those it gets when nobody else makes
any. -/
theorem verdicts_apart (texts : Texts) (settings : Settings) (arrivals : List Arrival) (host : String) :
    ((arrivals.zip (verdicts texts settings Gate.initial arrivals)).filter
      fun answered => answered.1.request.key = host).map Prod.snd =
    verdicts texts settings Gate.initial
      (arrivals.filter fun arrival => arrival.request.key = host) := by
  have alike : ∀ gate other : Gate, gate.stored host = other.stored host →
      ((arrivals.zip (verdicts texts settings gate arrivals)).filter
        fun answered => answered.1.request.key = host).map Prod.snd =
      verdicts texts settings other (arrivals.filter fun arrival => arrival.request.key = host) := by
    induction arrivals with
    | nil => simp [verdicts]
    | cons arrival rest inductionHypothesis =>
        intro gate other same
        by_cases own : arrival.request.key = host
        · have step := @protect_congr texts settings arrival gate other (own ▸ same)
          rw [own] at step
          simp [verdicts, own, step.1, inductionHypothesis _ _ step.2]
        · have kept := @protect_others texts settings arrival gate host own
          simp [verdicts, own, inductionHypothesis _ _ (kept.trans same)]
  exact alike Gate.initial Gate.initial rfl

end UrjaSetu.Api.Protect
