import UrjaSetu.Api.Ws

/-!
Which connection is handed which event, by the registry and the publishing
threads alone.

Owns: the registry against the subscriptions, and every event against the
connections that await it.
-/

namespace UrjaSetu.Api.Ws

open UrjaSetu.Domain UrjaSetu.Domain.Interfaces.Realtime UrjaSetu.Db.Models UrjaSetu.Library
  UrjaSetu.Services.RealtimeService

/-- A list in which one item was changed. -/
theorem getElem?_modify_eq_some {α : Type*} {items : List α} {place asked : ℕ} {change : α → α}
    {found : α} : (items.modify place change)[asked]? = some found ↔
      ∃ item, items[asked]? = some item ∧ (if place = asked then change item else item) = found := by
  rw [List.getElem?_modify]
  exact Option.map_eq_some_iff

/-- Only the changed item is not as it was. -/
theorem modified_cases {α : Type*} {items : List α} {place asked : ℕ} {change : α → α}
    {item now : α} (found : items[place]? = some item)
    (nowFound : (items.modify place change)[asked]? = some now) :
    asked = place ∧ now = change item ∨ asked ≠ place ∧ items[asked]? = some now := by
  obtain ⟨known, knownFound, same⟩ := getElem?_modify_eq_some.mp nowFound
  by_cases isIt : place = asked
  · subst isIt
    rw [if_pos rfl] at same
    rw [found] at knownFound
    exact .inl ⟨rfl, by rw [← same, Option.some.inj knownFound]⟩
  · rw [if_neg isIt] at same
    exact .inr ⟨fun equal => isIt equal.symm, same ▸ knownFound⟩

private theorem modified_here {α : Type*} {items : List α} {place : ℕ} {change : α → α} {item : α}
    (found : items[place]? = some item) :
    (items.modify place change)[place]? = some (change item) :=
  getElem?_modify_eq_some.mpr ⟨item, found, if_pos rfl⟩

theorem modified_elsewhere {α : Type*} {items : List α} {place other : ℕ} {change : α → α}
    {item : α} (different : other ≠ place) (found : items[other]? = some item) :
    (items.modify place change)[other]? = some item :=
  getElem?_modify_eq_some.mpr ⟨item, found, if_neg fun equal => different equal.symm⟩

/-- Where what a change keeps of an item is all that is asked of it, the change of one
item keeps it of all. -/
theorem forall_modified {α : Type*} {items : List α} {place : ℕ} {change : α → α}
    {holds : ℕ → α → Prop}
    (before : ∀ {other item}, items[other]? = some item → holds other item)
    (keeps : ∀ item, items[place]? = some item → holds place item → holds place (change item))
    {asked : ℕ} {now : α} (nowFound : (items.modify place change)[asked]? = some now) :
    holds asked now := by
  obtain ⟨known, knownFound, same⟩ := getElem?_modify_eq_some.mp nowFound
  by_cases here : place = asked
  · subst here
    rw [if_pos rfl] at same
    rw [← same]
    exact keeps known knownFound (before knownFound)
  · rw [if_neg here] at same
    rw [← same]
    exact before knownFound

/-- What is true of an item is true of the one in its place. -/
theorem exists_modified {α : Type*} {items : List α} {place asked : ℕ} {change : α → α}
    {item known : α} {P : α → Prop} (found : items[place]? = some item)
    (knownFound : items[asked]? = some known) (held : P known)
    (kept : P item → P (change item)) :
    ∃ now, (items.modify place change)[asked]? = some now ∧ P now := by
  by_cases isIt : asked = place
  · subst isIt
    rw [found] at knownFound
    obtain rfl := Option.some.inj knownFound
    exact ⟨_, modified_here found, kept held⟩
  · exact ⟨known, modified_elsewhere isIt knownFound, held⟩

theorem getElem?_concat_eq_some {α : Type*} {items : List α} {last found : α} {asked : ℕ} :
    (items ++ [last])[asked]? = some found ↔
      items[asked]? = some found ∨ asked = items.length ∧ last = found := by
  rcases Nat.lt_trichotomy asked items.length with inside | same | beyond
  · rw [List.getElem?_append_left inside]
    simp [inside.ne]
  · subst same
    simp
  · rw [List.getElem?_eq_none (by simpa using beyond), List.getElem?_eq_none beyond.le]
    simp [beyond.ne']

/-! ## What a subscription awaits -/

/-- The event was published on the channel of the subscription while it lasted. -/
structure Subscription.Awaits (subscription : Subscription) (number : ℕ) (event : RealtimeEvent) :
    Prop where
  subscribed : subscription.token ≠ Option.none
  channel : event.channel = subscription.channel
  after : subscription.joined ≤ number
  before : ∀ last ∈ subscription.left, number < last

section Awaits

variable {subscription : Subscription} {number other now : ℕ} {event posted : RealtimeEvent}

private theorem awaits_hand : (subscription.hand other posted).Awaits number event ↔
    subscription.Awaits number event :=
  ⟨fun awaits => ⟨awaits.subscribed, awaits.channel, awaits.after, awaits.before⟩,
    fun awaits => ⟨awaits.subscribed, awaits.channel, awaits.after, awaits.before⟩⟩

/-- The end of a subscription changes nothing for what was published before. -/
theorem awaits_leave (earlier : number < now) : (subscription.leave now).Awaits number event ↔
    subscription.Awaits number event := by
  constructor
  · intro awaits
    refine ⟨awaits.subscribed, awaits.channel, awaits.after, ?_⟩
    intro last ended
    rw [Option.mem_def] at ended
    exact awaits.before last (by simp [Subscription.leave, ended])
  · intro awaits
    refine ⟨awaits.subscribed, awaits.channel, awaits.after, ?_⟩
    intro last ended
    cases left : subscription.left with
    | none =>
        simp only [Subscription.leave, left, Option.mem_def] at ended
        exact earlier.trans_eq (Option.some.inj ended)
    | some first =>
        simp only [Subscription.leave, left, Option.mem_def] at ended
        exact awaits.before last (left.trans ended)

end Awaits

/-! ## The registry against the subscriptions -/

structure Registered (hub : RealtimeHub ℕ) (subscriptions : List Subscription)
    (publishings : List (Publishing ℕ)) (stopped : Bool) : Prop where
  apart : ∀ {id other : ℕ} {left right : Subscription} {token : UUID},
    subscriptions[id]? = some left → subscriptions[other]? = some right →
      left.token = some token → right.token = some token → id = other
  begun : ∀ {id : ℕ} {subscription : Subscription}, subscriptions[id]? = some subscription →
    subscription.joined ≤ publishings.length
  ended : ∀ {id : ℕ} {subscription : Subscription}, subscriptions[id]? = some subscription →
    ∀ last ∈ subscription.left, last ≤ publishings.length
  silent : ∀ {id : ℕ} {subscription : Subscription}, subscriptions[id]? = some subscription →
    subscription.token = none → subscription.left = none
  listed : ∀ {channel : RealtimeChannel} {token : UUID} {id : ℕ},
    (token, id) ∈ hub.targets channel ↔ ∃ subscription, subscriptions[id]? = some subscription ∧
      subscription.channel = channel ∧ subscription.token = some token ∧ subscription.left = none
  targets : ∀ {number : ℕ} {publishing : Publishing ℕ}, publishings[number]? = some publishing →
    ∀ {token : UUID} {id : ℕ}, (token, id) ∈ publishing.targets →
      ∃ subscription, subscriptions[id]? = some subscription ∧ subscription.token = some token ∧
        subscription.Awaits number publishing.event
  once : ∀ {number : ℕ} {publishing : Publishing ℕ}, publishings[number]? = some publishing →
    (publishing.targets.map Prod.snd).Nodup
  handed : ∀ {id : ℕ} {subscription : Subscription}, subscriptions[id]? = some subscription →
    ∀ {number : ℕ} {event : RealtimeEvent}, (number, event) ∈ subscription.handed →
      ∃ publishing, publishings[number]? = some publishing ∧ publishing.event = event ∧
        subscription.Awaits number event ∧ id ∉ publishing.targets.map Prod.snd
  handedOnce : ∀ {id : ℕ} {subscription : Subscription},
    subscriptions[id]? = some subscription → (subscription.handed.map Prod.fst).Nodup
  due : stopped = false → ∀ {id : ℕ} {subscription : Subscription},
    subscriptions[id]? = some subscription → ∀ {number : ℕ} {publishing : Publishing ℕ},
      publishings[number]? = some publishing → subscription.Awaits number publishing.event →
        number ∈ subscription.handed.map Prod.fst ∨ id ∈ publishing.targets.map Prod.snd

theorem Registered.initial : Registered RealtimeHub.initial [] [] false where
  apart found := by simp at found
  begun found := by simp at found
  ended found := by simp at found
  silent found := by simp at found
  listed := by simp [RealtimeHub.initial, RealtimeHub.targets, Dict.empty]
  targets found := by simp at found
  once found := by simp at found
  handed found := by simp at found
  handedOnce found := by simp at found
  due _ _ _ found := by simp at found

section Steps

variable {hub : RealtimeHub ℕ} {subscriptions : List Subscription}
  {publishings : List (Publishing ℕ)} {stopped : Bool}

theorem Registered.stop (registered : Registered hub subscriptions publishings stopped) :
    Registered hub subscriptions publishings true :=
  { registered with due := fun running => by cases running }

/-- A connection that has not subscribed awaits nothing. -/
theorem Registered.connect (registered : Registered hub subscriptions publishings stopped)
    (channel : RealtimeChannel) :
    Registered hub (subscriptions ++ [.none channel]) publishings stopped where
  apart := by
    intro id other left right token leftFound rightFound leftToken rightToken
    rcases getElem?_concat_eq_some.mp leftFound with leftEarlier | ⟨_, rfl⟩
    · rcases getElem?_concat_eq_some.mp rightFound with rightEarlier | ⟨_, rfl⟩
      · exact registered.apart leftEarlier rightEarlier leftToken rightToken
      · cases rightToken
    · cases leftToken
  begun := by
    intro id subscription found
    rcases getElem?_concat_eq_some.mp found with earlier | ⟨_, rfl⟩
    · exact registered.begun earlier
    · exact Nat.zero_le _
  ended := by
    intro id subscription found
    rcases getElem?_concat_eq_some.mp found with earlier | ⟨_, rfl⟩
    · exact registered.ended earlier
    · intro last ended
      cases ended
  silent := by
    intro id subscription found
    rcases getElem?_concat_eq_some.mp found with earlier | ⟨_, rfl⟩
    · exact registered.silent earlier
    · exact fun _ => rfl
  listed := by
    intro asked token id
    rw [registered.listed]
    constructor
    · rintro ⟨subscription, found, facts⟩
      exact ⟨subscription, getElem?_concat_eq_some.mpr (.inl found), facts⟩
    · rintro ⟨subscription, found, isChannel, isToken, present⟩
      rcases getElem?_concat_eq_some.mp found with earlier | ⟨_, rfl⟩
      · exact ⟨subscription, earlier, isChannel, isToken, present⟩
      · cases isToken
  targets := by
    intro number publishing published token id member
    obtain ⟨subscription, found, facts⟩ := registered.targets published member
    exact ⟨subscription, getElem?_concat_eq_some.mpr (.inl found), facts⟩
  once := registered.once
  handed := by
    intro id subscription found number event member
    rcases getElem?_concat_eq_some.mp found with earlier | ⟨_, rfl⟩
    · exact registered.handed earlier member
    · cases member
  handedOnce := by
    intro id subscription found
    rcases getElem?_concat_eq_some.mp found with earlier | ⟨_, rfl⟩
    · exact registered.handedOnce earlier
    · exact List.nodup_nil
  due := by
    intro running id subscription found number publishing published awaits
    rcases getElem?_concat_eq_some.mp found with earlier | ⟨_, rfl⟩
    · exact registered.due running earlier published awaits
    · exact absurd rfl awaits.subscribed

/-- A change that leaves the handle alone leaves the handles apart. -/
theorem Registered.apart_modified (registered : Registered hub subscriptions publishings stopped)
    {id first second : ℕ} {subscription left right : Subscription} {token : UUID}
    {change : Subscription → Subscription} (found : subscriptions[id]? = some subscription)
    (sameToken : (change subscription).token = subscription.token)
    (leftFound : (subscriptions.modify id change)[first]? = some left)
    (rightFound : (subscriptions.modify id change)[second]? = some right)
    (leftToken : left.token = some token) (rightToken : right.token = some token) :
    first = second := by
  have before : ∀ {place : ℕ} {now : Subscription},
      (subscriptions.modify id change)[place]? = some now → now.token = some token →
        ∃ known, subscriptions[place]? = some known ∧ known.token = some token := by
    intro place now nowFound isToken
    rcases modified_cases found nowFound with ⟨rfl, rfl⟩ | ⟨_, known⟩
    · exact ⟨subscription, found, sameToken.symm.trans isToken⟩
    · exact ⟨now, known, isToken⟩
  obtain ⟨_, leftKnown, leftSame⟩ := before leftFound leftToken
  obtain ⟨_, rightKnown, rightSame⟩ := before rightFound rightToken
  exact registered.apart leftKnown rightKnown leftSame rightSame

/-! A publishing thread whose targets become fewer. -/

section Fewer

variable {number : ℕ} {publishing : Publishing ℕ} {change : Publishing ℕ → Publishing ℕ}

private theorem Registered.targets_fewer
    (registered : Registered hub subscriptions publishings stopped)
    (published : publishings[number]? = some publishing)
    (sameEvent : (change publishing).event = publishing.event)
    (fewer : (change publishing).targets.Sublist publishing.targets) {other id : ℕ}
    {now : Publishing ℕ} {token : UUID}
    (nowFound : (publishings.modify number change)[other]? = some now)
    (member : (token, id) ∈ now.targets) :
    ∃ subscription, subscriptions[id]? = some subscription ∧ subscription.token = some token ∧
      subscription.Awaits other now.event := by
  rcases modified_cases published nowFound with ⟨rfl, rfl⟩ | ⟨_, known⟩
  · rw [sameEvent]
    exact registered.targets published (fewer.subset member)
  · exact registered.targets known member

private theorem Registered.once_fewer
    (registered : Registered hub subscriptions publishings stopped)
    (published : publishings[number]? = some publishing)
    (fewer : (change publishing).targets.Sublist publishing.targets) {other : ℕ}
    {now : Publishing ℕ} (nowFound : (publishings.modify number change)[other]? = some now) :
    (now.targets.map Prod.snd).Nodup := by
  rcases modified_cases published nowFound with ⟨_, rfl⟩ | ⟨_, known⟩
  · exact (registered.once published).sublist (fewer.map Prod.snd)
  · exact registered.once known

/-- An event that was handed over before has no more targets than it had. -/
theorem Registered.handed_fewer (registered : Registered hub subscriptions publishings stopped)
    (change : Publishing ℕ → Publishing ℕ) (published : publishings[number]? = some publishing)
    (sameEvent : (change publishing).event = publishing.event)
    (fewer : (change publishing).targets.Sublist publishing.targets) {other id : ℕ}
    {subscription : Subscription} {event : RealtimeEvent}
    (found : subscriptions[id]? = some subscription)
    (member : (other, event) ∈ subscription.handed) :
    ∃ now, (publishings.modify number change)[other]? = some now ∧ now.event = event ∧
      subscription.Awaits other event ∧ id ∉ now.targets.map Prod.snd := by
  obtain ⟨known, knownFound, isEvent, awaits, gone⟩ := registered.handed found member
  apply exists_modified published knownFound ⟨isEvent, awaits, gone⟩
  rintro ⟨isEvent, awaits, gone⟩
  exact ⟨sameEvent.trans isEvent, awaits, fun present => gone ((fewer.map Prod.snd).subset present)⟩

end Fewer

/-- A subscription with a fresh handle awaits what is published from now on. -/
theorem Registered.join (registered : Registered hub subscriptions publishings stopped) {id : ℕ}
    {subscription : Subscription} {token : UUID} (found : subscriptions[id]? = some subscription)
    (unnamed : subscription.token = none)
    (fresh : ∀ {other : ℕ} {known : Subscription}, subscriptions[other]? = some known →
      known.token ≠ some token) :
    Registered (hub.subscribe subscription.channel id token)
      (subscriptions.modify id (·.join token publishings.length)) publishings stopped := by
  have notListed : token ∉ (hub.targets subscription.channel).map Prod.fst := by
    intro listed
    obtain ⟨⟨_, holder⟩, member, rfl⟩ := List.mem_map.mp listed
    obtain ⟨known, knownFound, _, isToken, _⟩ := registered.listed.mp member
    exact fresh knownFound isToken
  have unaccounted : ∀ {number event}, ¬ subscription.Awaits number event :=
    fun awaits => awaits.subscribed unnamed
  have noneHanded : subscription.handed = [] := by
    rw [List.eq_nil_iff_forall_not_mem]
    rintro ⟨number, event⟩ member
    obtain ⟨_, _, _, awaits, _⟩ := registered.handed found member
    exact unaccounted awaits
  have present : subscription.left = none := registered.silent found unnamed
  refine
    { apart := ?_
      begun := ?_
      ended := ?_
      silent := ?_
      listed := ?_
      targets := ?_
      once := registered.once
      handed := ?_
      handedOnce := ?_
      due := ?_ }
  · intro first second left right shared leftFound rightFound leftToken rightToken
    rcases modified_cases found leftFound with ⟨rfl, rfl⟩ | ⟨_, leftKnown⟩
    · rcases modified_cases found rightFound with ⟨rfl, _⟩ | ⟨_, rightKnown⟩
      · rfl
      · exact absurd (rightToken.trans leftToken.symm) (fresh rightKnown)
    · rcases modified_cases found rightFound with ⟨rfl, rfl⟩ | ⟨_, rightKnown⟩
      · exact absurd (leftToken.trans rightToken.symm) (fresh leftKnown)
      · exact registered.apart leftKnown rightKnown leftToken rightToken
  · exact forall_modified registered.begun fun _ _ _ => le_rfl
  · apply forall_modified registered.ended
    exact fun _ _ ended => ended
  · exact forall_modified registered.silent fun _ _ _ unnamed =>
      absurd unnamed (Option.some_ne_none _)
  · intro asked shared other
    rw [RealtimeHub.mem_targets_subscribe notListed, registered.listed]
    constructor
    · rintro (⟨known, knownFound, isChannel, isToken, stays⟩ | ⟨rfl, same⟩)
      · have different : other ≠ id := by
          rintro rfl
          rw [found] at knownFound
          rw [Option.some.inj knownFound, isToken] at unnamed
          cases unnamed
        exact ⟨known, modified_elsewhere different knownFound, isChannel, isToken, stays⟩
      · obtain ⟨rfl, rfl⟩ := Prod.mk.inj same
        exact ⟨_, modified_here found, rfl, rfl, present⟩
    · rintro ⟨now, nowFound, isChannel, isToken, stays⟩
      rcases modified_cases found nowFound with ⟨rfl, rfl⟩ | ⟨_, known⟩
      · exact .inr ⟨isChannel.symm, by rw [Option.some.inj isToken]⟩
      · exact .inl ⟨now, known, isChannel, isToken, stays⟩
  · intro number publishing published shared other member
    obtain ⟨known, knownFound, isToken, awaits⟩ := registered.targets published member
    have different : other ≠ id := by
      rintro rfl
      rw [found] at knownFound
      exact unaccounted (Option.some.inj knownFound ▸ awaits)
    exact ⟨known, modified_elsewhere different knownFound, isToken, awaits⟩
  · intro other now nowFound number event member
    rcases modified_cases found nowFound with ⟨_, rfl⟩ | ⟨_, known⟩
    · rw [show (subscription.join token publishings.length).handed = subscription.handed from rfl,
        noneHanded] at member
      cases member
    · exact registered.handed known member
  · apply forall_modified registered.handedOnce
    exact fun _ _ once => once
  · intro running other now nowFound number publishing published awaits
    rcases modified_cases found nowFound with ⟨_, rfl⟩ | ⟨_, known⟩
    · have inside := (List.getElem?_eq_some_iff.mp published).1
      exact absurd awaits.after (by simpa [Subscription.join] using inside)
    · exact registered.due running known published awaits

/-- The end of a subscription takes it out of the registry, and nothing else. -/
theorem Registered.leave (registered : Registered hub subscriptions publishings stopped) {id : ℕ}
    {subscription : Subscription} {token : UUID} (found : subscriptions[id]? = some subscription)
    (isToken : subscription.token = some token) :
    Registered (hub.unsubscribe subscription.channel token)
      (subscriptions.modify id (·.leave publishings.length)) publishings stopped := by
  have inside : ∀ {number : ℕ} {publishing : Publishing ℕ},
      publishings[number]? = some publishing → number < publishings.length :=
    fun published => (List.getElem?_eq_some_iff.mp published).1
  refine
    { apart := ?_
      begun := ?_
      ended := ?_
      silent := ?_
      listed := ?_
      targets := ?_
      once := registered.once
      handed := ?_
      handedOnce := ?_
      due := ?_ }
  · exact registered.apart_modified found rfl
  · apply forall_modified registered.begun
    exact fun _ _ begun => begun
  · apply forall_modified registered.ended
    intro known _ before last ended
    cases left : known.left with
    | none =>
        simp only [Subscription.leave, left, Option.mem_def] at ended
        exact (Option.some.inj ended).ge
    | some first =>
        simp only [Subscription.leave, left, Option.mem_def] at ended
        exact before last (left.trans ended)
  · apply forall_modified registered.silent
    intro known knownFound _ unnamed
    obtain rfl := Option.some.inj (found.symm.trans knownFound)
    exact absurd (isToken.symm.trans unnamed) (Option.some_ne_none _)
  · intro asked shared other
    rw [RealtimeHub.mem_targets_unsubscribe, registered.listed]
    constructor
    · rintro ⟨⟨known, knownFound, isChannel, sharedToken, stays⟩, isOther⟩
      have different : other ≠ id := by
        rintro rfl
        rw [found] at knownFound
        obtain rfl := Option.some.inj knownFound
        exact isOther ⟨isChannel.symm, Option.some.inj (sharedToken.symm.trans isToken)⟩
      exact ⟨known, modified_elsewhere different knownFound, isChannel, sharedToken, stays⟩
    · rintro ⟨now, nowFound, isChannel, sharedToken, stays⟩
      rcases modified_cases found nowFound with ⟨rfl, rfl⟩ | ⟨different, known⟩
      · cases left : subscription.left with
        | none => simp [Subscription.leave, left] at stays
        | some first => simp [Subscription.leave, left] at stays
      · refine ⟨⟨now, known, isChannel, sharedToken, stays⟩, ?_⟩
        rintro ⟨rfl, rfl⟩
        exact different (registered.apart known found sharedToken isToken)
  · intro number publishing published shared other member
    obtain ⟨known, knownFound, sharedToken, awaits⟩ := registered.targets published member
    exact exists_modified found knownFound ⟨sharedToken, awaits⟩ fun facts =>
      ⟨facts.1, (awaits_leave (inside published)).mpr facts.2⟩
  · intro other now nowFound number event member
    rcases modified_cases found nowFound with ⟨rfl, rfl⟩ | ⟨_, known⟩
    · obtain ⟨publishing, published, isEvent, awaits, gone⟩ := registered.handed found member
      exact ⟨publishing, published, isEvent, (awaits_leave (inside published)).mpr awaits, gone⟩
    · exact registered.handed known member
  · apply forall_modified registered.handedOnce
    exact fun _ _ once => once
  · intro running other now nowFound number publishing published awaits
    rcases modified_cases found nowFound with ⟨rfl, rfl⟩ | ⟨_, known⟩
    · exact registered.due running found published ((awaits_leave (inside published)).mp awaits)
    · exact registered.due running known published awaits

/-- Each event is published to those who await it. -/
theorem Registered.publish (registered : Registered hub subscriptions publishings stopped)
    (event : RealtimeEvent) :
    Registered hub subscriptions (publishings ++ [hub.publish event]) stopped := by
  have longer : publishings.length ≤ (publishings ++ [hub.publish event]).length := by simp
  refine
    { registered with
      begun := fun found => (registered.begun found).trans longer
      ended := fun found last ended => (registered.ended found last ended).trans longer
      targets := ?_
      once := ?_
      handed := ?_
      due := ?_ }
  · intro number publishing published token id member
    rcases getElem?_concat_eq_some.mp published with earlier | ⟨rfl, rfl⟩
    · exact registered.targets earlier member
    · obtain ⟨subscription, found, isChannel, isToken, present⟩ := registered.listed.mp member
      refine ⟨subscription, found, isToken, ⟨?_, isChannel.symm, registered.begun found, ?_⟩⟩
      · rw [isToken]
        exact Option.some_ne_none _
      · rw [present]
        intro last ended
        cases ended
  · intro number publishing published
    rcases getElem?_concat_eq_some.mp published with earlier | ⟨rfl, rfl⟩
    · exact registered.once earlier
    · show ((hub.targets event.channel).map Prod.snd).Nodup
      have distinct := (hub.subscribers event.channel).distinct
      apply distinct.of_map.map_on
      rintro ⟨leftToken, id⟩ leftMember ⟨rightToken, other⟩ rightMember same
      obtain rfl : id = other := same
      obtain ⟨left, leftFound, _, leftNamed, _⟩ := registered.listed.mp leftMember
      obtain ⟨right, rightFound, _, rightNamed, _⟩ := registered.listed.mp rightMember
      rw [leftFound] at rightFound
      rw [← Option.some.inj rightFound, leftNamed] at rightNamed
      rw [Option.some.inj rightNamed]
  · intro id subscription found number event member
    obtain ⟨publishing, published, facts⟩ := registered.handed found member
    exact ⟨publishing, getElem?_concat_eq_some.mpr (.inl published), facts⟩
  · intro running id subscription found number publishing published awaits
    rcases getElem?_concat_eq_some.mp published with earlier | ⟨rfl, rfl⟩
    · exact registered.due running found earlier awaits
    · right
      obtain ⟨token, isToken⟩ := Option.ne_none_iff_exists'.mp awaits.subscribed
      have present : subscription.left = none := by
        rw [Option.eq_none_iff_forall_not_mem]
        intro last ended
        exact absurd (awaits.before last ended) (registered.ended found last ended).not_gt
      exact List.mem_map.mpr ⟨(token, id),
        registered.listed.mpr ⟨subscription, found, awaits.channel.symm, isToken, present⟩, rfl⟩

/-- A thread whose deliveries fail has one target less. -/
theorem Registered.drop (registered : Registered hub subscriptions publishings true)
    {number : ℕ} {publishing : Publishing ℕ} {target : UUID × ℕ} {rest : List (UUID × ℕ)}
    (published : publishings[number]? = some publishing)
    (isTarget : publishing.targets = target :: rest) :
    Registered hub subscriptions (publishings.modify number ({ · with targets := rest })) true := by
  have fewer : rest.Sublist publishing.targets := by
    rw [isTarget]
    exact List.sublist_cons_self _ _
  refine
    { registered with
      begun := ?_
      ended := ?_
      targets := fun nowFound _ _ => registered.targets_fewer published rfl fewer nowFound
      once := registered.once_fewer published fewer
      handed := fun found _ _ => registered.handed_fewer _ published rfl fewer found
      due := fun running => by cases running }
  · rw [List.length_modify]
    exact registered.begun
  · rw [List.length_modify]
    exact registered.ended

/-- A delivery moves an event from what is due to what was handed over. -/
theorem Registered.hand (registered : Registered hub subscriptions publishings stopped)
    {number id : ℕ} {publishing : Publishing ℕ} {token : UUID} {rest : List (UUID × ℕ)}
    (published : publishings[number]? = some publishing)
    (isTarget : publishing.targets = (token, id) :: rest) (delivered : ℕ) :
    Registered hub (subscriptions.modify id (·.hand number publishing.event))
      (publishings.modify number ({ · with targets := rest, delivered })) stopped := by
  obtain ⟨subscription, found, isToken, awaits⟩ := registered.targets published
    (isTarget ▸ List.mem_cons_self)
  have once := registered.once published
  rw [isTarget, List.map_cons, List.nodup_cons] at once
  have fewer : rest.Sublist publishing.targets := by
    rw [isTarget]
    exact List.sublist_cons_self _ _
  have unhanded : number ∉ subscription.handed.map Prod.fst := by
    intro member
    obtain ⟨⟨_, event⟩, entry, rfl⟩ := List.mem_map.mp member
    obtain ⟨known, knownFound, _, _, gone⟩ := registered.handed found entry
    rw [published] at knownFound
    obtain rfl := Option.some.inj knownFound
    exact gone (by simp [isTarget])
  refine
    { apart := ?_
      begun := ?_
      ended := ?_
      silent := ?_
      listed := ?_
      targets := ?_
      once := ?_
      handed := ?_
      handedOnce := ?_
      due := ?_ }
  · exact registered.apart_modified found rfl
  · rw [List.length_modify]
    apply forall_modified registered.begun
    exact fun _ _ begun => begun
  · rw [List.length_modify]
    apply forall_modified registered.ended
    exact fun _ _ ended => ended
  · apply forall_modified registered.silent
    exact fun _ _ silent => silent
  · intro asked shared other
    rw [registered.listed]
    constructor
    · rintro ⟨known, knownFound, facts⟩
      exact exists_modified found knownFound facts fun facts => facts
    · rintro ⟨now, nowFound, facts⟩
      rcases modified_cases found nowFound with ⟨rfl, rfl⟩ | ⟨_, known⟩
      · exact ⟨subscription, found, facts⟩
      · exact ⟨now, known, facts⟩
  · intro other now nowFound shared holder member
    obtain ⟨known, knownFound, sharedToken, holds⟩ :=
      registered.targets_fewer published rfl fewer nowFound member
    exact exists_modified found knownFound ⟨sharedToken, holds⟩ fun facts =>
      ⟨facts.1, awaits_hand.mpr facts.2⟩
  · exact registered.once_fewer published fewer
  · intro holder now nowFound other event member
    rcases modified_cases found nowFound with ⟨rfl, rfl⟩ | ⟨_, known⟩
    · rcases List.mem_append.mp member with earlier | last
      · obtain ⟨publishing_, published_, isEvent, holds, gone⟩ :=
          registered.handed_fewer ({ · with targets := rest, delivered }) published rfl fewer found
            earlier
        exact ⟨publishing_, published_, isEvent, awaits_hand.mpr holds, gone⟩
      · obtain ⟨rfl, rfl⟩ := Prod.mk.inj (List.mem_singleton.mp last)
        exact ⟨_, modified_here published, rfl, awaits_hand.mpr awaits, once.1⟩
    · exact registered.handed_fewer _ published rfl fewer known member
  · apply forall_modified registered.handedOnce
    intro known knownFound _
    obtain rfl := Option.some.inj (found.symm.trans knownFound)
    show ((subscription.handed ++ [(number, publishing.event)]).map Prod.fst).Nodup
    rw [List.map_append, List.map_singleton]
    exact List.nodup_append'.mpr ⟨registered.handedOnce found, List.nodup_singleton _,
      List.disjoint_singleton.mpr unhanded⟩
  · intro running holder now nowFound other publishing_ published_ holds
    -- what was due before is handed over, or is due still
    have before : ∀ {holding : Subscription}, subscriptions[holder]? = some holding →
        holding.Awaits other publishing_.event →
          other ∈ holding.handed.map Prod.fst ∨ holder ∈ publishing_.targets.map Prod.snd ∨
            (other = number ∧ holder = id) := by
      intro holding holdingFound holdingAwaits
      rcases modified_cases published published_ with ⟨rfl, rfl⟩ | ⟨_, knownFound⟩
      · rcases registered.due running holdingFound published holdingAwaits with done | waits
        · exact .inl done
        · rw [isTarget, List.map_cons, List.mem_cons] at waits
          rcases waits with isIt | later
          · exact .inr (.inr ⟨rfl, isIt⟩)
          · exact .inr (.inl later)
      · rcases registered.due running holdingFound knownFound holdingAwaits with done | waits
        · exact .inl done
        · exact .inr (.inl waits)
    rcases modified_cases found nowFound with ⟨rfl, rfl⟩ | ⟨different, known⟩
    · show other ∈ (subscription.handed ++ [(number, publishing.event)]).map Prod.fst ∨ _
      rw [List.map_append, List.mem_append]
      rcases before found (awaits_hand.mp holds) with done | waits | ⟨rfl, _⟩
      · exact .inl (.inl done)
      · exact .inr waits
      · exact .inl (.inr (by simp))
    · rcases before known holds with done | waits | ⟨_, isIt⟩
      · exact .inl done
      · exact .inr waits
      · exact absurd isIt different

end Steps

end UrjaSetu.Api.Ws
