import BlockImage.Mailbox

/-!
# Events on their way to the caller

A worker posts events to a mailbox while a caller takes them out, one by one. The steps of the two come in any order:
between two events that a call for the latest one takes out the worker may post more. Whatever the order, the events that
come through are emissions in their order, each of them once, and all others are counted as dropped.
-/
namespace BlockImage

/-- What the caller is about. -/
inductive Caller
  | idle
  /-- It asked for the latest event and takes events out until there are none. So far `newest` came last, and `before`
  events had been received when it began. -/
  | looking (newest : Option Event) (before : Nat)
  deriving DecidableEq

/-- A mailbox with the two that share it, and what went through it so far. -/
structure Exchange where
  mailbox : Mailbox
  caller : Caller := .idle
  /-- Events that the worker handed out, oldest first. -/
  emitted : List Event := []
  /-- Events that the caller took out, in order, those included that it passed over for a later one. -/
  received : List Event := []
  deriving DecidableEq

namespace Exchange

/-- Nothing was emitted yet. -/
def start (capacity : Nat) : Exchange := { mailbox := .ofCapacity capacity }

/-- What the worker or the caller does in one step. -/
inductive Action
  | emit (event : Event)
  | receive (found : Option Event)
  /-- The caller begins to look for the latest event, -/
  | call
  /-- takes one out, -/
  | take (event : Event)
  /-- or finds none and is through. -/
  | answer (newest : Option Event)
  deriving DecidableEq

/-- The steps that can be made. -/
inductive Step : Exchange → Action → Exchange → Prop
  | emit (exchange : Exchange) (event : Event) : Step exchange (.emit event) {
      exchange with mailbox := exchange.mailbox.post event, emitted := exchange.emitted ++ [event] }
  | receive {exchange : Exchange} {found : Option Event} {left : Mailbox} (idle : exchange.caller = .idle)
      (taken : exchange.mailbox.take = (found, left)) : Step exchange (.receive found) {
        exchange with mailbox := left, received := exchange.received ++ found.toList }
  | call {exchange : Exchange} (idle : exchange.caller = .idle) :
      Step exchange .call { exchange with caller := .looking none exchange.received.length }
  | take {exchange : Exchange} {newest : Option Event} {before : Nat} {event : Event} {left : Mailbox}
      (looking : exchange.caller = .looking newest before) (taken : exchange.mailbox.take = (some event, left)) :
      Step exchange (.take event) {
        exchange with
        mailbox := left
        caller := .looking (some event) before
        received := exchange.received ++ [event] }
  | answer {exchange : Exchange} {newest : Option Event} {before : Nat} {left : Mailbox}
      (looking : exchange.caller = .looking newest before) (taken : exchange.mailbox.take = (none, left)) :
      Step exchange (.answer newest) { exchange with mailbox := left, caller := .idle }

/-- Some steps are made one after the other. -/
inductive Runs : Exchange → List Action → Exchange → Prop
  | nothing (exchange : Exchange) : Runs exchange [] exchange
  | next {first second third : Exchange} {action : Action} {actions : List Action} (step : Step first action second)
      (rest : Runs second actions third) : Runs first (action :: actions) third

/-! ### Emissions and their numbers -/

/-- Some events are emissions in the order of their numbers, none of which comes twice. -/
structure Stand (emitted events : List Event) (numbers : List Nat) : Prop where
  ascending : numbers.Pairwise (· < ·)
  named : numbers.map (emitted[·]?) = events.map some

namespace Stand

variable {emitted events more : List Event} {numbers : List Nat}

theorem nothing (emitted : List Event) : Stand emitted [] [] := ⟨.nil, rfl⟩

theorem lt_length (stand : Stand emitted events numbers) {number : Nat} (member : number ∈ numbers) :
    number < emitted.length := by
  have named : emitted[number]? ∈ events.map some := stand.named ▸ List.mem_map_of_mem member
  obtain ⟨event, _, same⟩ := List.mem_map.mp named
  exact (List.getElem?_eq_some_iff.mp same.symm).1

/-- Emissions keep their numbers when there are more of them. -/
theorem later (stand : Stand emitted events numbers) (event : Event) : Stand (emitted ++ [event]) events numbers where
  ascending := stand.ascending
  named := by
    rw [← stand.named]
    refine List.map_congr_left fun number member => ?_
    exact List.getElem?_append_left (stand.lt_length member)

/-- A new emission comes behind all others. -/
theorem push (stand : Stand emitted events numbers) (event : Event) :
    Stand (emitted ++ [event]) (events ++ [event]) (numbers ++ [emitted.length]) where
  ascending := by
    refine List.pairwise_append.mpr ⟨stand.ascending, List.pairwise_singleton _ _, fun number member last is => ?_⟩
    rw [List.mem_singleton.mp is]
    exact stand.lt_length member
  named := by
    rw [List.map_append, (stand.later event).named, List.map_append]
    simp

/-- The first ones of some events that stand for emissions do so as well. -/
theorem of_append (stand : Stand emitted (events ++ more) numbers) : ∃ first, Stand emitted events first := by
  obtain ⟨first, second, rfl, named, _⟩ := List.map_eq_append_iff.mp (stand.named.trans List.map_append)
  exact ⟨first, (List.pairwise_append.mp stand.ascending).1, named⟩

/-- The last of some events that stand for emissions is the newest of them. -/
theorem of_concat {event : Event} (stand : Stand emitted (events ++ [event]) numbers) :
    ∃ earlier number, numbers = earlier ++ [number] ∧ emitted[number]? = some event := by
  obtain ⟨earlier, last, rfl, _, named⟩ := List.map_eq_append_iff.mp (stand.named.trans List.map_append)
  obtain ⟨number, rfl, same⟩ := List.map_eq_singleton_iff.mp named
  exact ⟨earlier, number, rfl, same⟩

end Stand

/-! ### Single steps -/

/-- The oldest of the events that wait is taken out, if there is one. -/
theorem take_cases {mailbox left : Mailbox} {found : Option Event} (taken : mailbox.take = (found, left)) :
    mailbox.queued = found.toList ++ left.queued ∧ left.capacity = mailbox.capacity ∧
      left.dropped = mailbox.dropped ∧ (found = none → left.queued = []) := by
  unfold Mailbox.take at taken
  split at taken
  next empty =>
    cases taken
    exact ⟨rfl, rfl, rfl, fun _ => empty⟩
  next event later waits =>
    cases taken
    exact ⟨waits, rfl, rfl, nofun⟩

/-- What holds of an exchange between any two steps. -/
structure Sound (capacity : Nat) (exchange : Exchange) : Prop where
  room : exchange.mailbox.capacity = max capacity 1
  within : exchange.mailbox.queued.length ≤ max capacity 1
  /-- What was received and what waits are emissions, in order. -/
  ordered : ∃ numbers, Stand exchange.emitted (exchange.received ++ exchange.mailbox.queued) numbers
  counted : exchange.emitted.length =
    exchange.received.length + exchange.mailbox.queued.length + exchange.mailbox.dropped
  /-- A call for the latest event holds the last one that it took out. -/
  holds : ∀ newest before, exchange.caller = .looking newest before →
    before ≤ exchange.received.length ∧ newest = (exchange.received.drop before).getLast?

namespace Sound

variable {capacity : Nat} {exchange after : Exchange}

theorem at_start (capacity : Nat) : Sound capacity (.start capacity) where
  room := rfl
  within := Nat.zero_le _
  ordered := ⟨[], .nothing _⟩
  counted := rfl
  holds := nofun

theorem emit (sound : Sound capacity exchange) (event : Event) : Sound capacity {
    exchange with mailbox := exchange.mailbox.post event, emitted := exchange.emitted ++ [event] } := by
  have room := sound.room
  have counted := sound.counted
  have longer : (exchange.emitted ++ [event]).length = exchange.emitted.length + 1 := List.length_append
  obtain ⟨numbers, stand⟩ := sound.ordered
  rw [Mailbox.post]
  -- An event for which there is room waits under the next number; any other one is counted, and no number changes.
  split
  next below =>
    refine ⟨room, ?_, ⟨numbers ++ [exchange.emitted.length], ?_⟩, ?_, sound.holds⟩
    · rw [List.length_append, List.length_singleton]
      omega
    · rw [← List.append_assoc]
      exact stand.push event
    · rw [longer, counted, List.length_append, List.length_singleton]
      dsimp only
      omega
  next full =>
    refine ⟨room, sound.within, ⟨numbers, stand.later event⟩, ?_, sound.holds⟩
    rw [longer, counted]
    rfl

/-- An event that is taken out goes from those that wait to those that were received. -/
theorem taking (found : Option Event) {left : Mailbox} (caller : Caller) (sound : Sound capacity exchange)
    (taken : exchange.mailbox.take = (found, left))
    (holds : ∀ newest before, caller = .looking newest before → before ≤ (exchange.received ++ found.toList).length ∧
      newest = ((exchange.received ++ found.toList).drop before).getLast?) :
    Sound capacity { exchange with mailbox := left, caller, received := exchange.received ++ found.toList } := by
  obtain ⟨queued, same, dropped, _⟩ := take_cases taken
  have within := sound.within
  have counted := sound.counted
  have ordered := sound.ordered
  rw [queued] at within counted ordered
  rw [List.length_append] at within counted
  refine ⟨same.trans sound.room, Nat.le_trans (Nat.le_add_left _ _) within, ?_, ?_, holds⟩
  · rw [List.append_assoc]
    exact ordered
  · rw [List.length_append, dropped, Nat.add_assoc exchange.received.length]
    exact counted

/-- No step breaks what holds of an exchange. -/
theorem of_step {action : Action} (sound : Sound capacity exchange) (step : Step exchange action after) :
    Sound capacity after := by
  cases step with
  | emit event => exact sound.emit event
  | receive idle taken =>
    refine taking _ _ sound taken fun newest before looking => ?_
    rw [idle] at looking
    cases looking
  | call idle =>
    refine ⟨sound.room, sound.within, sound.ordered, sound.counted, fun newest before looking => ?_⟩
    cases looking
    exact ⟨Nat.le_refl _, by rw [List.drop_length, List.getLast?_nil]⟩
  | @take newest before event left looking taken =>
    refine taking (some event) _ sound taken fun _ _ same => ?_
    cases same
    -- The call had begun before the event was received, so that it came last since then.
    have begun := (sound.holds newest before looking).1
    refine ⟨by rw [List.length_append]; omega, ?_⟩
    rw [List.drop_append_of_le_length begun]
    exact List.getLast?_concat.symm
  | @answer newest before left looking taken =>
    have passed := taking none .idle sound taken nofun
    rw [Option.toList_none, List.append_nil] at passed
    exact passed

theorem of_runs {actions : List Action} (sound : Sound capacity exchange) (runs : Runs exchange actions after) :
    Sound capacity after := by
  induction runs with
  | nothing => exact sound
  | next step _ ih => exact ih (sound.of_step step)

end Sound

/-! ### Calls for the latest event -/

/-- When the worker pauses, a call takes out all events that wait, and the last of them is its answer. -/
theorem looks_through (exchange : Exchange) {newest : Option Event} {before : Nat}
    (looking : exchange.caller = .looking newest before) : ∃ after,
      Runs exchange (exchange.mailbox.queued.map .take ++ [.answer (exchange.mailbox.queued.getLast?.or newest)]) after ∧
        after.mailbox = exchange.mailbox.latest.2 := by
  obtain ⟨⟨capacity, queued, dropped⟩, caller, emitted, received⟩ := exchange
  dsimp only at looking ⊢
  subst looking
  -- The events that wait are taken out one by one; the one taken last is the newest so far.
  induction queued generalizing newest received with
  | nil => exact ⟨_, .next (.answer rfl rfl) (.nothing _), rfl⟩
  | cons event queued ih =>
    obtain ⟨after, runs, left⟩ := @ih (some event) (received ++ [event])
    refine ⟨after, ?_, left⟩
    have last : (event :: queued).getLast?.or newest = queued.getLast?.or (some event) := by
      rw [List.getLast?_cons]
      cases queued.getLast? <;> rfl
    rw [last]
    exact .next (.take rfl rfl) runs

/-- Events pass through an exchange in order or are counted as dropped, and calls for the latest one are answered with
it. -/
structure Faithful (capacity : Nat) (exchange : Exchange) : Prop where
  /-- Received events and those behind them that wait are emissions in their order, none of which comes twice. -/
  ordered : ∃ numbers, Stand exchange.emitted (exchange.received ++ exchange.mailbox.queued) numbers
  counted : exchange.emitted.length =
    exchange.received.length + exchange.mailbox.queued.length + exchange.mailbox.dropped
  /-- The worker never has to wait, whatever the caller is about. -/
  emits : ∀ event, ∃ after, Step exchange (.emit event) after
  /-- An emission is dropped just when as many events wait as there is room for, and otherwise waits behind them. -/
  drops : ∀ event after, Step exchange (.emit event) after → after.received = exchange.received ∧
    if exchange.mailbox.queued.length = max capacity 1 then
      after.mailbox.queued = exchange.mailbox.queued ∧ after.mailbox.dropped = exchange.mailbox.dropped + 1
    else after.mailbox.queued = exchange.mailbox.queued ++ [event] ∧ after.mailbox.dropped = exchange.mailbox.dropped
  /-- A call that began when `before` events had been received ends when none waits, with the last one it took out, and
  no event was received by then that was emitted later. -/
  answers : ∀ newest before, exchange.caller = .looking newest before →
    ((∃ after, Step exchange (.answer newest) after) ↔ exchange.mailbox.queued = []) ∧
      newest = (exchange.received.drop before).getLast? ∧ (newest = none ↔ exchange.received.length = before) ∧
      ∀ event, newest = some event → ∃ earlier number, exchange.emitted[number]? = some event ∧
        Stand exchange.emitted exchange.received (earlier ++ [number])
  /-- Unless the worker comes between, a call takes out all events that wait. -/
  undisturbed : exchange.caller = .idle → ∃ after,
    Runs exchange (.call :: exchange.mailbox.queued.map .take ++ [.answer exchange.mailbox.latest.1]) after ∧
      after.mailbox = exchange.mailbox.latest.2

/-- In whatever order the worker and the caller make their steps, at every moment the events received and those that wait
are emissions in order, none of them twice, and all others were dropped for want of room and counted. -/
theorem events_pass_in_order_or_are_counted {capacity : Nat} {actions : List Action} {exchange : Exchange}
    (runs : Runs (.start capacity) actions exchange) : Faithful capacity exchange := by
  have sound := (Sound.at_start capacity).of_runs runs
  have room := sound.room
  have within := sound.within
  constructor
  · exact sound.ordered
  · exact sound.counted
  · exact fun event => ⟨_, .emit exchange event⟩
  · intro event after step
    cases step
    refine ⟨rfl, ?_⟩
    rw [Mailbox.post]
    split
    next full =>
      rw [if_neg (by omega)]
      exact ⟨rfl, rfl⟩
    next below =>
      rw [if_pos (by omega)]
      exact ⟨rfl, rfl⟩
  · intro newest before looking
    obtain ⟨begun, newest_eq⟩ := sound.holds newest before looking
    refine ⟨⟨?_, fun empty => ?_⟩, newest_eq, ?_, ?_⟩
    · rintro ⟨after, step⟩
      cases step with
      | answer _ taken =>
        obtain ⟨queued, _, _, empty⟩ := take_cases taken
        rw [queued, empty rfl]
        rfl
    · have none : exchange.mailbox.take = (none, exchange.mailbox) := by rw [Mailbox.take, empty]
      exact ⟨_, .answer looking none⟩
    · rw [newest_eq, List.getLast?_eq_none_iff, List.drop_eq_nil_iff]
      omega
    · rintro event rfl
      -- The event came last of all that were received, so that its number is the last one as well.
      obtain ⟨earlier, split⟩ := List.getLast?_eq_some_iff.mp newest_eq.symm
      have received : exchange.received = exchange.received.take before ++ earlier ++ [event] := by
        rw [List.append_assoc, ← split, List.take_append_drop]
      obtain ⟨numbers, stand⟩ := sound.ordered
      obtain ⟨first, stand⟩ := stand.of_append
      rw [received] at stand
      obtain ⟨others, number, rfl, named⟩ := stand.of_concat
      rw [← received] at stand
      exact ⟨others, number, named, stand⟩
  · intro idle
    obtain ⟨after, looked, left⟩ := looks_through { exchange with caller := .looking none exchange.received.length } rfl
    rw [Option.or_none] at looked
    exact ⟨after, .next (.call idle) looked, left⟩

/-- An event after so many of three blocks. -/
def sampleEvent (unitsDone : Nat) : Event := { unitsDone, totalUnits := 3, position := unitsDone }

/-- There is room for one event. The second one finds it taken, and the third one is posted while the caller looks for the
latest. -/
def sampleActions : List Action :=
  [.emit (sampleEvent 1), .emit (sampleEvent 2), .call, .take (sampleEvent 1), .emit (sampleEvent 3),
    .take (sampleEvent 3)]

theorem events_pass_sample : ∃ exchange, Runs (.start 0) sampleActions exchange ∧
    exchange.received = [sampleEvent 1, sampleEvent 3] ∧ exchange.mailbox.dropped = 1 ∧ Faithful 0 exchange := by
  have runs : Runs (.start 0) sampleActions _ := .next (.emit _ _) <| .next (.emit _ _) <| .next (.call rfl) <|
    .next (.take rfl rfl) <| .next (.emit _ _) <| .next (.take rfl rfl) <| .nothing _
  exact ⟨_, runs, rfl, rfl, events_pass_in_order_or_are_counted runs⟩

end Exchange

end BlockImage
