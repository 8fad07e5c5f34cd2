import UrjaSetu.Services.WorkspaceService.MarketLedger

/-!
A request identifier buys at most once: once `accept_offer` has answered a
request, it gives the same answer to the same request and refuses any other,
whatever the workspace has done in between.

Owns: which requests are the same, and the answers over whole runs.
-/

namespace UrjaSetu.Services.WorkspaceService

open UrjaSetu.Domain UrjaSetu.Domain.Interfaces UrjaSetu.Db UrjaSetu.Db.Models UrjaSetu.Library

/-! ## The same request -/

/-- What a request asks for. -/
structure Acceptance where
  offerId : UUID
  quantity : QuantityInput
  price : PriceInput
  ownOrderId : Option UUID

namespace Acceptance

/-- The text that is hashed. -/
def text (request : Acceptance) : String :=
  acceptanceText request.offerId request.quantity.value request.price.value request.ownOrderId

def bodyHash (engines : Engines) (request : Acceptance) : String :=
  bodyHashOf engines request.offerId request.quantity request.price request.ownOrderId

/-- Two requests that ask for the same, whatever numerals they write it in. -/
structure Alike (left right : Acceptance) : Prop where
  offer : left.offerId = right.offerId
  quantity : left.quantity.toRat = right.quantity.toRat
  price : left.price.toRat = right.price.toRat
  own : left.ownOrderId = right.ownOrderId

def perform (engines : Engines) (user : User) (requestId : UUID) (request : Acceptance) :
    Call Trade :=
  acceptOffer engines user request.offerId request.quantity request.price requestId
    request.ownOrderId

end Acceptance

/-- A separator that neither part before it holds splits a text in one way. -/
theorem split_unique {stop : Char} {left right leftRest rightRest : List Char}
    (leftFree : ∀ char ∈ left, char ≠ stop) (rightFree : ∀ char ∈ right, char ≠ stop)
    (same : left ++ stop :: leftRest = right ++ stop :: rightRest) :
    left = right ∧ leftRest = rightRest := by
  have leftParts := Decimal.takeWhile_before leftRest leftFree
  have rightParts := Decimal.takeWhile_before rightRest rightFree
  rw [same] at leftParts
  constructor
  · exact leftParts.1.symm.trans rightParts.1
  · have rests := leftParts.2.symm.trans rightParts.2
    exact (List.cons.inj rests).2

private theorem normalize_positive {amount : Decimal} (positive : 0 < amount.toRat) :
    amount.normalize.negative = false := by
  have zero : ¬ amount.coefficient = 0 := by
    intro isZero
    simp [Decimal.toRat, isZero] at positive
  have sign : amount.negative = false := by
    by_contra isNegative
    rw [Bool.not_eq_false] at isNegative
    have small : amount.toRat ≤ 0 := by
      rw [Decimal.toRat, if_pos isNegative, neg_one_mul, neg_mul]
      have whole : (0 : ℚ) ≤ amount.coefficient * 10 ^ amount.exponent := by positivity
      linarith
    exact small.not_gt positive
  rw [Decimal.normalize, if_neg zero]
  exact sign

private theorem strChars_free (number : Decimal) (nonnegative : number.negative = false) :
    ∀ char ∈ number.strChars, char ≠ '|' := by
  rw [Decimal.strChars, nonnegative]
  exact Decimal.magnitudeChars_head _ _

/-- Amounts of one value are written alike, and amounts written alike have one
value. -/
theorem normalized_iff {limit : ℚ} (left right : Amount limit) :
    left.value.normalize.strChars = right.value.normalize.strChars ↔ left.toRat = right.toRat := by
  constructor
  · intro same
    have equal := Decimal.strChars_inj (normalize_positive left.positive)
      (normalize_positive right.positive) same
    rw [Amount.toRat, Amount.toRat, ← Decimal.normalize_toRat, equal, Decimal.normalize_toRat]
  · intro same
    rw [Decimal.normalize_eq_of_toRat_eq left.positive same]

/-- A character that is no hyphen and no hexadecimal digit is not in an
identifier. -/
theorem uuidChars_free {stop : Char} (noHyphen : stop ≠ '-')
    (noDigit : ∀ digit < 16, Nat.digitChar digit ≠ stop) (id : UUID) :
    ∀ char ∈ uuidChars id, char ≠ stop := by
  have digits : ∀ part : List Char, part ⊆ Numerals.hexChars 32 id → ∀ char ∈ part, char ≠ stop := by
    intro part within char member
    obtain ⟨digit, small, rfl⟩ := Numerals.hexChars_isHex 32 id char (within member)
    exact noDigit digit small
  have window : ∀ skip size, ((Numerals.hexChars 32 id).drop skip).take size ⊆
      Numerals.hexChars 32 id := fun _ _ _ member => List.mem_of_mem_drop (List.mem_of_mem_take member)
  intro char member
  dsimp only [uuidChars] at member
  simp only [List.mem_append, List.mem_cons] at member
  rcases member with first | hyphen | second | hyphen | third | hyphen | fourth | hyphen | last
  · exact digits _ (List.take_subset _ _) char first
  · exact hyphen ▸ noHyphen.symm
  · exact digits _ (window 8 4) char second
  · exact hyphen ▸ noHyphen.symm
  · exact digits _ (window 12 4) char third
  · exact hyphen ▸ noHyphen.symm
  · exact digits _ (window 16 4) char fourth
  · exact hyphen ▸ noHyphen.symm
  · exact digits _ (List.drop_subset _ _) char last

/-- `str(own_order_id)`. -/
def ownChars (ownOrderId : Option UUID) : List Char :=
  (ownOrderId.map uuidChars).getD ['N', 'o', 'n', 'e']

private theorem ownChars_injective : Function.Injective ownChars := by
  have named : ∀ id : UUID, uuidChars id ≠ ['N', 'o', 'n', 'e'] := by
    intro id same
    have noN := @uuidChars_free 'N' (by decide) (by decide) id 'N' (by rw [same]; decide)
    exact noN rfl
  intro left right same
  cases left with
  | none =>
      cases right with
      | none => rfl
      | some id => exact absurd same.symm (named id)
  | some id =>
      cases right with
      | none => exact absurd same (named id)
      | some other => exact congrArg some (uuidText_injective (congrArg String.ofList same))

private theorem Acceptance.text_eq (request : Acceptance) :
    request.text = String.ofList (uuidChars request.offerId ++ '|' ::
        (request.quantity.value.normalize.strChars ++ '|' ::
          (request.price.value.normalize.strChars ++ '|' :: ownChars request.ownOrderId))) := by
  apply String.toList_inj.mp
  cases own : request.ownOrderId with
  | none => simp [text, own, acceptanceText, uuidText, Decimal.str, ownChars]
  | some id => simp [text, own, acceptanceText, uuidText, Decimal.str, ownChars]

/-- The text of a request says what it asks for, and nothing else. -/
theorem Acceptance.text_iff (left right : Acceptance) :
    left.text = right.text ↔ left.Alike right := by
  have amountFree : ∀ {limit : ℚ} (amount : Amount limit),
      ∀ char ∈ amount.value.normalize.strChars, char ≠ '|' :=
    fun amount => strChars_free _ (normalize_positive amount.positive)
  have idFree := @uuidChars_free '|' (by decide) (by decide)
  rw [text_eq, text_eq]
  constructor
  · intro same
    obtain ⟨offer, rest⟩ := split_unique (idFree _) (idFree _) (String.ofList_injective same)
    obtain ⟨quantity, rest⟩ := split_unique (amountFree _) (amountFree _) rest
    obtain ⟨price, own⟩ := split_unique (amountFree _) (amountFree _) rest
    exact ⟨uuidText_injective (congrArg String.ofList offer), (normalized_iff _ _).mp quantity,
      (normalized_iff _ _).mp price, ownChars_injective own⟩
  · intro alike
    rw [alike.offer, (normalized_iff _ _).mpr alike.quantity, (normalized_iff _ _).mpr alike.price,
      alike.own]

/-! ## Answers stay -/

/-- Every answered request has its trade: it stands, it is of the offer, and it
is of the quantity the request asked for. -/
def AnswersStand (engines : Engines) (db : Database) : Prop :=
  ∀ action ∈ db.actions.rows, ∃ request : Acceptance, action.bodyHash = request.bodyHash engines ∧
    ∃ trade ∈ db.trades.rows, trade.id = action.tradeId ∧ stands trade = true ∧
      trade.quantityKwh = request.quantity.toRat ∧
        (trade.buyOrderId = request.offerId ∨ trade.sellOrderId = request.offerId)

section Moves

variable {engines : Engines} {db next : Database}

/-- A move changes no stored trade, save that one that stands is settled. -/
theorem Move.trade_kept (move : Move engines db next) {trade : Trade}
    (stored : trade ∈ db.trades.rows) : ∃ status, stands { trade with status := status } =
      stands trade ∧ { trade with status := status } ∈ next.trades.rows := by
  cases move with
  | placed order placed =>
      refine ⟨trade.status, rfl, ?_⟩
      rw [placed.frame]
      exact stored
  | withdrawn order withdrawn =>
      refine ⟨trade.status, rfl, ?_⟩
      rw [withdrawn.frame]
      exact stored
  | decided decision recorded =>
      refine ⟨trade.status, rfl, ?_⟩
      rw [recorded.trades]
      exact List.mem_append_left _ stored
  | answered action answered =>
      refine ⟨trade.status, rfl, ?_⟩
      rw [answered.frame]
      exact stored
  | delivered delivery recorded =>
      have rows : next.trades.rows = db.trades.rows.map (deliveredRow delivery.trade.id) :=
        recorded.added.trades
      obtain ⟨status, same⟩ := deliveredRow_same delivery.trade.id trade
      refine ⟨status, ?_, ?_⟩
      · rw [← same]
        exact recorded.row_stands stored
      · rw [rows, ← same]
        exact List.mem_map_of_mem stored
  | beside beside =>
      refine ⟨trade.status, rfl, ?_⟩
      rw [beside.sameTrades]
      exact stored

/-- A move forgets no answer, and adds at most one. -/
theorem Move.actions (move : Move engines db next) : next.actions.rows = db.actions.rows ∨
    ∃ action, Answered engines action db next := by
  cases move with
  | placed order placed => exact Or.inl (by rw [placed.frame])
  | withdrawn order withdrawn => exact Or.inl (by rw [withdrawn.frame])
  | decided decision recorded => exact Or.inl (by rw [recorded.frame])
  | answered action answered => exact Or.inr ⟨action, answered⟩
  | delivered delivery recorded => exact Or.inl (by rw [recorded.added.frame])
  | beside beside => exact Or.inl (by rw [beside.actions])

private theorem Move.action_kept (move : Move engines db next) {action : MarketplaceAction}
    (stored : action ∈ db.actions.rows) : action ∈ next.actions.rows := by
  rcases move.actions with same | ⟨added, answered⟩
  · rw [same]
    exact stored
  · rw [answered.actions]
    exact List.mem_append_left _ stored

private theorem AnswersStand.moved (answers : AnswersStand engines db)
    (move : Move engines db next) :
    AnswersStand engines next := by
  have earlier : ∀ action ∈ db.actions.rows, ∃ request : Acceptance,
      action.bodyHash = request.bodyHash engines ∧ ∃ trade ∈ next.trades.rows,
        trade.id = action.tradeId ∧ stands trade = true ∧
          trade.quantityKwh = request.quantity.toRat ∧
            (trade.buyOrderId = request.offerId ∨ trade.sellOrderId = request.offerId) := by
    intro action stored
    obtain ⟨request, sameBody, trade, tradeStored, isIts, standing, quantity, offer⟩ :=
      answers action stored
    obtain ⟨status, goesOn, kept⟩ := move.trade_kept tradeStored
    exact ⟨request, sameBody, _, kept, isIts, goesOn.trans standing, quantity, offer⟩
  intro action stored
  rcases move.actions with same | ⟨added, answered⟩
  · rw [same] at stored
    exact earlier action stored
  · rw [answered.actions] at stored
    rcases List.mem_append.mp stored with known | isNew
    · exact earlier action known
    · rw [List.mem_singleton.mp isNew]
      obtain ⟨offerId, quantity, price, ownOrderId, sameBody, trade, tradeStored, isIts, committed,
        sameQuantity, offer⟩ := answered.request
      refine ⟨⟨offerId, quantity, price, ownOrderId⟩, sameBody, trade, ?_, isIts, ?_, sameQuantity,
        offer⟩
      · rw [answered.frame]
        exact tradeStored
      · simp [stands, committed]

end Moves

/-! ## The answer to a repeated request -/

section Repeated

variable {engines : Engines} {db : Database} {user : User} {requestId : UUID}

/-- A request whose identifier was answered is compared with the one that was,
and nothing else is looked at. -/
theorem serve_answered {action : MarketplaceAction} {trade : Trade}
    (stored : action ∈ db.actions.rows) (isUser : action.userId = user.id)
    (isRequest : action.requestId = requestId) (tradeStored : trade ∈ db.trades.rows)
    (isIts : trade.id = action.tradeId) (request : Acceptance) (outside : Outside) :
    Work.serve (request.perform engines user requestId) db outside =
      (if request.bodyHash engines = action.bodyHash then .ok trade
      else .error (.http 409 "This request ID was already used for another trade."),
        db, outside) := by
  have found : db.actions.find? (fun action =>
      action.userId = user.id && action.requestId = requestId) = some action := by
    apply Table.find?_of_only stored
    · simp [isUser, isRequest]
    · intro other otherStored matches_
      simp only [Bool.and_eq_true, decide_eq_true_eq] at matches_
      apply Table.eq_of_column (fun action => (action.userId, action.requestId)) _ otherStored stored
      · simp [matches_.1, matches_.2, isUser, isRequest]
      · exact fun _ _ equal => decide_eq_true (Prod.mk.inj equal)
  have tradeFound : db.trades.find? (fun trade => trade.id = action.tradeId) = some trade := by
    apply Table.find?_of_only tradeStored (decide_eq_true isIts)
    intro other otherStored sameId
    exact trade_eq_of_id otherStored tradeStored ((of_decide_eq_true sameId).trans isIts.symm)
  have ensured : Work.Ensures (request.perform engines user requestId) (Work.begin_ db outside)
      (fun value after => (request.bodyHash engines = action.bodyHash ∧ value = trade) ∧
        after = Work.begin_ db outside)
      fun error after => (request.bodyHash engines ≠ action.bodyHash ∧
        error = .http 409 "This request ID was already used for another trade.") ∧
          after = Work.begin_ db outside := by
    unfold Acceptance.perform acceptOffer
    rw [Work.ensures_bind, state, Work.ensures_read, Work.ensures_bind, Work.ensures_read]
    rw [show (Work.begin_ db outside : Session).working = db from rfl, found]
    dsimp only
    unfold repeated
    rw [Work.ensures_bind, ensures_require]
    constructor
    · intro same
      rw [Work.ensures_bind, Work.ensures_read, show (Work.begin_ db outside : Session).working = db
        from rfl, tradeFound]
      exact ⟨⟨(of_decide_eq_true same).symm, rfl⟩, rfl⟩
    · intro different
      exact ⟨⟨fun same => of_decide_eq_false different same.symm, rfl⟩, rfl⟩
  rcases ended : request.perform engines user requestId (Work.begin_ db outside) with
    ⟨outcome, after⟩
  rw [Work.serve_of_run ended]
  cases outcome with
  | ok value =>
      obtain ⟨⟨same, rfl⟩, rfl⟩ := ensured.returned ended
      rw [if_pos same]
      rfl
  | error error =>
      obtain ⟨⟨different, rfl⟩, rfl⟩ := ensured.raised ended
      rw [if_neg different]
      rfl

end Repeated

/-! ## Runs -/

section Runs

variable {engines : Engines} {start before next final : Database} {user : User} {requestId : UUID}

/-- A call whose result is dropped is served alike. -/
theorem serve_dropped {α : Type} {call : Call α} {db next : Database} {outside left : Outside}
    {value : α} (served : Work.serve call db outside = (.ok value, next, left)) :
    Work.serve (do
      let _ ← call
      pure ()) db outside = (.ok (), next, left) := by
  rcases ended : call (Work.begin_ db outside) with ⟨outcome, after⟩
  rw [Work.serve_of_run ended] at served
  cases served
  exact Work.serve_of_run (Work.bind_of_ok ended)

/-- What an accepted request has left: its answer. -/
theorem answer_of_accepted {request : Acceptance} {outside left : Outside} {trade : Trade}
    (onGrid : OnGridOrders before)
    (accepted : Work.serve (request.perform engines user requestId) before outside =
      (.ok trade, next, left)) :
    ⟨user.id, requestId, request.bodyHash engines, trade.id⟩ ∈ next.actions.rows := by
  have ensured := returns_iff_ensures.mp (@acceptOffer_ensures before (Work.begin_ before outside)
    engines user request.quantity request.price request.ownOrderId request.offerId requestId
    (between_begin before outside) onGrid)
  unfold Acceptance.perform at accepted
  rcases ended : acceptOffer engines user request.offerId request.quantity request.price requestId
    request.ownOrderId (Work.begin_ before outside) with ⟨outcome, after⟩
  rw [Work.serve_of_run ended] at accepted
  cases accepted
  rcases ensured.returned ended with ⟨unchanged, retried⟩ | ⟨ended, taken⟩
  · rw [unchanged]
    exact retried.actionStored
  · obtain ⟨matched, _, answered⟩ := taken.answered
    rw [ended, answered.actions]
    exact List.mem_append_right _ (List.mem_singleton.mpr rfl)

/-- Once a request is answered, every later request under its identifier is given
the same trade, of exactly the quantity that was asked for, where it asks for the
same, and is refused where it does not; either way nothing is changed. -/
theorem acceptOffer_once (collisionFree : Set.InjOn engines.sha256 (Set.range Acceptance.text))
    (unopened : Unopened start) (unanswered : start.actions.rows = [])
    (earlier : MarketRun engines start before) (request : Acceptance) {outside left : Outside}
    {trade : Trade}
    (accepted : Work.serve (request.perform engines user requestId) before outside =
      (.ok trade, next, left))
    (onward : MarketRun engines next final) :
    ∃ answer ∈ final.trades.rows, answer.id = trade.id ∧ stands answer = true ∧
      answer.quantityKwh = request.quantity.toRat ∧
      ∀ (retry : Acceptance) (later : Outside),
        (retry.Alike request → Work.serve (retry.perform engines user requestId) final later =
          (.ok answer, final, later)) ∧
        (¬ retry.Alike request → Work.serve (retry.perform engines user requestId) final later =
          (.error (.http 409 "This request ID was already used for another trade."), final,
            later)) := by
  have initially : Ledger start ∧ AnswersStand engines start :=
    ⟨unopened.ledger, by simp [AnswersStand, unanswered]⟩
  have step : ∀ state further, Ledger state ∧ AnswersStand engines state → Move engines state further →
      Ledger further ∧ AnswersStand engines further :=
    fun _ _ both move => ⟨both.1.moved move, both.2.moved move⟩
  have reached : MarketRun engines start next := by
    have operation := MarketRun.operation (.acceptOffer user request.offerId request.quantity
      request.price requestId request.ownOrderId) outside earlier
    have same : MarketOperation.serve engines (.acceptOffer user request.offerId request.quantity
        request.price requestId request.ownOrderId) before outside = (.ok (), next, left) :=
      serve_dropped accepted
    rw [same] at operation
    exact operation
  have atNext := reached.keeps initially (fun _ both => both.1.onGrid) step
  obtain ⟨answers, stored⟩ : AnswersStand engines final ∧
      ⟨user.id, requestId, request.bodyHash engines, trade.id⟩ ∈ final.actions.rows := by
    have beforeLedger := (earlier.keeps initially (fun _ both => both.1.onGrid) step).1
    have all : (Ledger final ∧ AnswersStand engines final) ∧
        ⟨user.id, requestId, request.bodyHash engines, trade.id⟩ ∈ final.actions.rows := by
      apply onward.keeps ⟨atNext, answer_of_accepted beforeLedger.onGrid accepted⟩
      · exact fun _ all => all.1.1.onGrid
      · exact fun _ _ all move => ⟨step _ _ all.1 move, move.action_kept all.2⟩
    exact ⟨all.1.2, all.2⟩
  obtain ⟨answeredRequest, sameBody, answer, answerStored, isIts, standing, quantity, _⟩ :=
    answers _ stored
  have hashes : ∀ left right : Acceptance,
      left.bodyHash engines = right.bodyHash engines ↔ left.Alike right := by
    intro left right
    exact (collisionFree.eq_iff ⟨left, rfl⟩ ⟨right, rfl⟩).trans (Acceptance.text_iff left right)
  have alike : request.Alike answeredRequest := (hashes _ _).mp sameBody
  refine ⟨answer, answerStored, isIts, standing, quantity.trans alike.quantity.symm, ?_⟩
  intro retry later
  have served := @serve_answered engines _ user requestId _ _ stored rfl rfl answerStored isIts
    retry later
  have bodies := hashes retry request
  constructor
  · intro same
    rw [served, if_pos (bodies.mpr same)]
  · intro different
    rw [served, if_neg fun same => different (bodies.mp same)]

/-- An operation that raises, in any state of any run, leaves that state. -/
theorem marketRun_raised (unopened : Unopened start) (run : MarketRun engines start before)
    (operation : MarketOperation) (outside : Outside) {error : Failure}
    (raised : (operation.serve engines before outside).1 = .error error) :
    (operation.serve engines before outside).2.1 = before := by
  have ensured := returns_iff_ensures.mp (@MarketOperation.perform_ensures before
    (Work.begin_ before outside) engines operation (between_begin before outside)
      (run.ledger unopened).onGrid rfl)
  unfold MarketOperation.serve at raised ⊢
  rcases ended : operation.perform engines (Work.begin_ before outside) with ⟨outcome, after⟩
  rw [Work.serve_of_run ended] at raised ⊢
  dsimp only at raised
  subst raised
  exact ensured.raised ended

end Runs

/-- The consumer's request. -/
def morningRequest : Acceptance := ⟨1001, morningQuantity, morningCeiling, none⟩

/-- How it ends. -/
def answeredMorning : Except Failure Trade × Database × Outside :=
  Work.serve (morningRequest.perform textEngines ⟨12, .consumer⟩ 77) offered (countingOutside 2000)

private theorem uuidChars_head (id : UUID) :
    ∃ digit < 16, ∃ rest, uuidChars id = Nat.digitChar digit :: rest := by
  obtain ⟨first, rest, digits⟩ :=
    List.exists_cons_of_length_eq_add_one (Numerals.hexChars_length 32 id)
  obtain ⟨digit, small, rfl⟩ := Numerals.hexChars_isHex 32 id first
    (digits ▸ List.mem_cons_self)
  refine ⟨digit, small, ?_⟩
  rw [uuidChars, digits]
  exact ⟨_, rfl⟩

/-- A request starts with a hexadecimal digit, so its text is kept. -/
theorem shortHash_text (request : Acceptance) : shortHash request.text = request.text := by
  have oneByte : ∀ digit < 16, ∃ byte, String.utf8EncodeChar (Nat.digitChar digit) = [byte] ∧
      byte ≠ 123 := by
    intro digit small
    exact ⟨_, String.utf8EncodeChar_eq_singleton (by interval_cases digit <;> decide),
      by interval_cases digit <;> decide⟩
  obtain ⟨digit, small, rest, starts⟩ := uuidChars_head request.offerId
  obtain ⟨byte, encoded, noBrace⟩ := oneByte digit small
  rw [shortHash, if_neg]
  rw [Acceptance.text_eq, starts, String.toByteArray_ofList, List.utf8Encode,
    List.toList_data_toByteArray, List.cons_append, List.flatMap_cons, encoded]
  exact fun same => noBrace (Option.some.inj same)

theorem acceptOffer_once_sample :
    ∃ trade next left, answeredMorning = (.ok trade, next, left) ∧
      ∃ answer ∈ next.trades.rows, answer.id = trade.id ∧ stands answer = true ∧
        answer.quantityKwh = morningRequest.quantity.toRat ∧
        ∀ (retry : Acceptance) (later : Outside),
          (retry.Alike morningRequest →
            Work.serve (retry.perform textEngines ⟨12, .consumer⟩ 77) next later =
              (.ok answer, next, later)) ∧
          (¬ retry.Alike morningRequest →
            Work.serve (retry.perform textEngines ⟨12, .consumer⟩ 77) next later =
              (.error (.http 409 "This request ID was already used for another trade."), next,
                later)) := by
  have collisionFree : Set.InjOn textEngines.sha256 (Set.range Acceptance.text) := by
    rw [show textEngines.sha256 = shortHash from rfl]
    rintro _ ⟨left, rfl⟩ _ ⟨right, rfl⟩ same
    rwa [shortHash_text, shortHash_text] at same
  have ok : answeredMorning.1.isOk = true := by decide +kernel
  rcases ended : answeredMorning with ⟨outcome, next, left⟩
  rw [ended] at ok
  cases outcome with
  | error error => cases ok
  | ok trade =>
      exact ⟨trade, next, left, rfl, acceptOffer_once collisionFree morningTwin_unopened rfl
        offered_run morningRequest ended .start⟩

/-- The same, with a solver that raises. -/
def troubledEngines : Engines :=
  { textEngines with
    grid := { textEngines.grid with validate := fun _ => .error "RuntimeError" } }

def troubledOffer : Database :=
  (morningOffer.serve troubledEngines morningTwin (countingOutside 1000)).2.1

/-- The consumer's acceptance, where no trade can be validated, before its session
is closed. -/
def troubledAcceptance : Except Failure Unit × Session :=
  morningAcceptance.perform troubledEngines (Work.begin_ troubledOffer (countingOutside 2000))

/-- The acceptance places an order of its own, rejects both orders, and raises; the
offer is open as before, and there is no other order. -/
theorem marketRun_raised_sample :
    troubledAcceptance.2.working.orders.rows.map Order.status = [.rejected, .rejected] ∧
      ∃ next left, morningAcceptance.serve troubledEngines troubledOffer (countingOutside 2000) =
        (.error (.http 409 ("Unable to match within both price limits and grid capacity. Try a " ++
          "different limit or delivery slot.")), next, left) ∧ next = troubledOffer ∧
        next.orders.rows.map Order.status = [.open] := by
  have evaluated : troubledAcceptance.2.working.orders.rows.map Order.status =
      [.rejected, .rejected] ∧ troubledAcceptance.1 = .error (.http 409 ("Unable to match " ++
        "within both price limits and grid capacity. Try a different limit or delivery slot.")) := by
    decide +kernel
  rcases ended : troubledAcceptance with ⟨outcome, after⟩
  rw [ended] at evaluated
  obtain ⟨rejected, rfl⟩ := evaluated
  have served : morningAcceptance.serve troubledEngines troubledOffer (countingOutside 2000) = _ :=
    Work.serve_of_run ended
  have run : MarketRun troubledEngines morningTwin troubledOffer :=
    .operation morningOffer (countingOutside 1000) .start
  have kept := marketRun_raised morningTwin_unopened run morningAcceptance (countingOutside 2000)
    (congrArg Prod.fst served)
  rw [served] at kept
  dsimp only at kept
  refine ⟨rejected, _, _, served, kept, ?_⟩
  rw [kept]
  decide +kernel

end UrjaSetu.Services.WorkspaceService
