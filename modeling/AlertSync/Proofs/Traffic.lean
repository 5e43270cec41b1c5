import AlertSync.Proofs.Loop.Waking
import AlertSync.Traffic
import Mathlib.Data.List.Induction
import Mathlib.Data.List.Infix

/-!
# Each topic of the bus is a queue of one place

Whatever is done with a bus, in whatever order, a notification is lost only to a topic whose
subscription was dropped. Otherwise it is queued or coalesces into the one that waits: as many are
received as were queued, but for one that may still wait. Who looks receives what waits even when
no handle is left, and finds the end only after that (`lawful_after`). Whether a handle is left is
for the history to say, which copies and drops them (`HandleLeft`, `handles_after`).

The topics have nothing in common but the handles. What comes of the acts on one of them depends on
its `share` of the traffic alone, and acts on the other leave that as it is (`share_after_filter`).
On one topic an act changes the slot in one of four ways (`Slot.Changes`), and each keeps the
balance between what was queued and what was received (`Balanced`).
-/

namespace AlertSync

namespace Traffic

/-- The traffic after all that was done. -/
def after (history : List BusAct) : Traffic := history.foldl act start

/-- Whether a handle is left after all that was done: there was one, and at no time were more
dropped than copied. -/
def HandleLeft (history : List BusAct) : Prop :=
  ∀ before, before <+: history → before.count .dropHandle ≤ before.count .cloneHandle

instance (history : List BusAct) : Decidable (HandleLeft history) :=
  decidable_of_iff (∀ before ∈ history.inits, before.count .dropHandle ≤ before.count .cloneHandle)
    (by simp only [List.mem_inits, HandleLeft])

/-- What came of the acts that are about a topic. -/
def notesOf (x : Traffic) (topic : Topic) : List BusNote := x.notes.filter (·.topic = topic)

/-- What a topic owes to those who use it, after all that was done with the bus. -/
structure Lawful (topic : Topic) (history : List BusAct) : Prop where
  /-- A notification is lost if the subscription was dropped; otherwise it waits, or one does
  already. -/
  notified : HandleLeft history →
    (after history).bus.note? (.notify topic) = some (.delivered topic
      (if .unsubscribe topic ∈ history then .closed
        else if ((after history).bus.slot topic).full then .coalesced else .queued))
  /-- As many notifications were received as were queued, but for one that waits. -/
  conserved : .unsubscribe topic ∉ history →
    (after history).notes.count (.delivered topic .queued) =
      (after history).notes.count (.arrived topic .received) +
        ((after history).bus.slot topic).full.toNat
  /-- Who looks receives what waits, whether or not a handle is left, and finds the end only where
  nothing waits and no handle is left. -/
  looked : .unsubscribe topic ∉ history → ∃ arrival,
    (after history).bus.note? (.look topic) = some (.arrived topic arrival) ∧
      (arrival = .received ↔ ((after history).bus.slot topic).full = true) ∧
      (arrival = .closed ↔
        ((after history).bus.slot topic).full = false ∧ ¬ HandleLeft history)
  counted : (after history).counters.value (.coalesced topic) =
    (after history).notes.count (.delivered topic .coalesced)
  /-- What is done with another topic changes nothing that comes of an act on this one. -/
  independent : ∀ history' : List BusAct,
    history'.filter (·.concerns topic) = history.filter (·.concerns topic) →
      (after history').notesOf topic = (after history).notesOf topic

theorem after_snoc (history : List BusAct) (a : BusAct) :
    after (history ++ [a]) = (after history).act a := by
  rw [after, List.foldl_append]
  rfl

end Traffic

/-! ## The handles -/

/-- Handles come by copying and go by dropping, as long as there is one. -/
theorem Bus.handles_act (b : Bus) (a : BusAct) : (b.act a).handles =
    if b.handles = 0 then 0
    else b.handles + [a].count .cloneHandle - [a].count .dropHandle := by
  have hsame {n : Nat} (h : n = b.handles) : n = if b.handles = 0 then 0 else b.handles := by
    split
    · next hnone => exact h.trans hnone
    · exact h
  cases a with
  | notify topic =>
    refine hsame ?_
    rw [act]
    split
    · rfl
    · exact handles_modify _ _ _
  | look topic =>
    refine hsame ?_
    rw [act]
    split
    · exact handles_modify _ _ _
    · rfl
  | unsubscribe topic => exact hsame (handles_modify _ _ _)
  | cloneHandle => rfl
  | dropHandle =>
    show b.handles - 1 = if b.handles = 0 then 0 else b.handles - 1
    split
    · next hnone => rw [hnone]
    · rfl

namespace Traffic

variable {history : List BusAct} {a : BusAct}

theorem handleLeft_snoc : HandleLeft (history ++ [a]) ↔ HandleLeft history ∧
    (history ++ [a]).count .dropHandle ≤ (history ++ [a]).count .cloneHandle := by
  constructor
  · exact fun h => ⟨fun before hbefore => h before (hbefore.trans (List.prefix_append _ _)),
      h _ (List.prefix_refl _)⟩
  · rintro ⟨hformer, hnow⟩ before hbefore
    obtain rfl | hbefore := List.prefix_concat_iff.1 hbefore
    · exact hnow
    · exact hformer before hbefore

/-- As long as a handle is left, there are one and those that were copied less those that were
dropped; when none is left there never is one again. -/
theorem handles_after (history : List BusAct) :
    HandleLeft history ∧ (after history).bus.handles + history.count .dropHandle =
      1 + history.count .cloneHandle ∨
    ¬ HandleLeft history ∧ (after history).bus.handles = 0 := by
  induction history using List.reverseRecOn with
  | nil => exact .inl ⟨fun before hbefore => by simp [List.prefix_nil.1 hbefore], rfl⟩
  | append_singleton history a ih =>
    have hact := (after history).bus.handles_act a
    rw [handleLeft_snoc, after_snoc, List.count_append, List.count_append]
    change ((after history).act a).bus.handles = _ at hact
    obtain ⟨hleft, hhandles⟩ | ⟨hnone, hhandles⟩ := ih
    · have hcount := hleft history (List.prefix_refl _)
      rw [if_neg (by omega)] at hact
      by_cases hnow : history.count .dropHandle + [a].count .dropHandle ≤
          history.count .cloneHandle + [a].count .cloneHandle
      · exact .inl ⟨⟨hleft, hnow⟩, by omega⟩
      · exact .inr ⟨fun h => hnow h.2, by omega⟩
    · exact .inr ⟨fun h => hnone h.1, hact.trans (if_pos hhandles)⟩

theorem handles_eq_zero_iff : (after history).bus.handles = 0 ↔ ¬ HandleLeft history := by
  obtain ⟨hleft, hhandles⟩ | ⟨hnone, hhandles⟩ := handles_after history
  · have hcount := hleft history (List.prefix_refl _)
    exact iff_of_false (by omega) (not_not_intro hleft)
  · exact iff_of_true hhandles hnone

end Traffic

/-! ## The topics are independent -/

namespace Bus

variable {b b' : Bus} {a : BusAct} {n : BusNote} {topic : Topic}

/-- Who looks receives something exactly if something waits. -/
theorem arrival_eq_received_iff : b.arrival topic = .received ↔ (b.slot topic).full = true :=
  ⟨full_of_received, fun hfull => if_pos hfull⟩

/-- Who looks finds the end exactly if nothing waits and no handle is left. -/
theorem arrival_eq_closed_iff :
    b.arrival topic = .closed ↔ (b.slot topic).full = false ∧ b.handles = 0 := by
  refine ⟨empty_of_closed, fun ⟨hempty, hhandles⟩ => ?_⟩
  rw [arrival, if_neg (Bool.eq_false_iff.1 hempty), if_pos hhandles]

theorem slot_modify_self (b : Bus) (topic : Topic) (f : Slot → Slot) :
    (b.modify topic f).slot topic = f (b.slot topic) :=
  (slot_modify _ _ _ _).trans (if_pos rfl)

theorem slot_cloneHandle (b : Bus) (topic : Topic) : b.cloneHandle.slot topic = b.slot topic := by
  cases topic <;> rfl

theorem slot_dropHandle (b : Bus) (topic : Topic) : b.dropHandle.slot topic = b.slot topic := by
  cases topic <;> rfl

/-- What comes of an act is about the topic of the act. -/
theorem concerns_of_note? (h : b.note? a = some n) (topic : Topic) :
    a.concerns topic = decide (n.topic = topic) := by
  cases a with
  | notify t =>
    rw [note?] at h
    split at h
    · nomatch h
    · obtain rfl := Option.some.inj h
      rfl
  | look t =>
    rw [note?] at h
    split at h
    · obtain rfl := Option.some.inj h
      rfl
    · nomatch h
  | unsubscribe | cloneHandle | dropHandle => nomatch h

/-- An act that does not concern a topic leaves its slot and the handles. -/
theorem act_of_not_concerns (h : a.concerns topic = false) :
    (b.act a).slot topic = b.slot topic ∧ (b.act a).handles = b.handles := by
  have hmodify {t : Topic} (ht : t ≠ topic) (f : Slot → Slot) :
      (b.modify t f).slot topic = b.slot topic ∧ (b.modify t f).handles = b.handles :=
    ⟨(slot_modify _ _ _ _).trans (if_neg (Ne.symm ht)), handles_modify _ _ _⟩
  cases a with
  | notify t =>
    rw [act]
    split
    · exact ⟨rfl, rfl⟩
    · exact hmodify (of_decide_eq_false h) _
  | look t =>
    rw [act]
    split
    · exact hmodify (of_decide_eq_false h) _
    · exact ⟨rfl, rfl⟩
  | unsubscribe t => exact hmodify (of_decide_eq_false h) _
  | cloneHandle | dropHandle => nomatch h

section

variable (hslot : b.slot topic = b'.slot topic) (hhandles : b.handles = b'.handles)
include hslot hhandles

/-- What comes of an act on a topic depends on its slot and the handles. -/
theorem note?_congr (h : a.concerns topic = true) : b.note? a = b'.note? a := by
  cases a with
  | notify t =>
    obtain rfl : t = topic := of_decide_eq_true h
    rw [note?, note?, delivery, delivery, hslot, hhandles]
  | look t =>
    obtain rfl : t = topic := of_decide_eq_true h
    rw [note?, note?, arrival, arrival, hslot, hhandles]
  | unsubscribe | cloneHandle | dropHandle => rfl

/-- What an act does to the slot of a topic depends on that slot and the handles. -/
theorem act_congr (h : a.concerns topic = true) :
    (b.act a).slot topic = (b'.act a).slot topic ∧ (b.act a).handles = (b'.act a).handles := by
  have hmodify (f : Slot → Slot) : (b.modify topic f).slot topic = (b'.modify topic f).slot topic ∧
      (b.modify topic f).handles = (b'.modify topic f).handles := by
    rw [slot_modify_self, slot_modify_self, handles_modify, handles_modify, hslot]
    exact ⟨rfl, hhandles⟩
  cases a with
  | notify t =>
    obtain rfl : t = topic := of_decide_eq_true h
    rw [act, act, hhandles]
    split
    · exact ⟨hslot, hhandles⟩
    · exact hmodify _
  | look t =>
    obtain rfl : t = topic := of_decide_eq_true h
    rw [act, act, hslot]
    split
    · exact hmodify _
    · exact ⟨hslot, hhandles⟩
  | unsubscribe t =>
    obtain rfl : t = topic := of_decide_eq_true h
    exact hmodify _
  | cloneHandle =>
    rw [act, act, slot_cloneHandle, slot_cloneHandle, cloneHandle, cloneHandle, hhandles]
    exact ⟨hslot, rfl⟩
  | dropHandle =>
    rw [act, act, slot_dropHandle, slot_dropHandle, dropHandle, dropHandle, hhandles]
    exact ⟨hslot, rfl⟩

end

end Bus

namespace Traffic

variable {x y : Traffic} {topic : Topic} {a : BusAct}

/-- What of the traffic belongs to a topic. -/
def share (x : Traffic) (topic : Topic) : Slot × Nat × List BusNote :=
  (x.bus.slot topic, x.bus.handles, x.notesOf topic)

theorem notesOf_act (x : Traffic) (a : BusAct) (topic : Topic) : (x.act a).notesOf topic =
    x.notesOf topic ++ if a.concerns topic then (x.bus.note? a).toList else [] := by
  rw [notesOf, act, List.filter_append]
  cases hnote : x.bus.note? a with
  | none => simp [notesOf]
  | some n => simp [notesOf, Bus.concerns_of_note? hnote topic, List.filter_cons]

/-- An act that does not concern a topic leaves its share. -/
theorem share_act_of_not_concerns (h : a.concerns topic = false) :
    (x.act a).share topic = x.share topic := by
  obtain ⟨hslot, hhandles⟩ := Bus.act_of_not_concerns (b := x.bus) h
  rw [share, notesOf_act, h]
  exact congrArg₂ Prod.mk hslot (congrArg₂ Prod.mk hhandles (List.append_nil _))

/-- An act changes the share of a topic depending on nothing but that share. -/
theorem share_act_congr (h : x.share topic = y.share topic) (a : BusAct) :
    (x.act a).share topic = (y.act a).share topic := by
  cases hconcerns : a.concerns topic with
  | false => rw [share_act_of_not_concerns hconcerns, share_act_of_not_concerns hconcerns, h]
  | true =>
    obtain ⟨hslot, hrest⟩ := Prod.mk.inj h
    obtain ⟨hhandles, hnotes⟩ := Prod.mk.inj hrest
    obtain ⟨hslot', hhandles'⟩ := Bus.act_congr hslot hhandles hconcerns
    rw [share, share, notesOf_act, notesOf_act, hnotes,
      Bus.note?_congr hslot hhandles hconcerns]
    exact congrArg₂ Prod.mk hslot' (congrArg₂ Prod.mk hhandles' rfl)

/-- The share of a topic is what only the acts make of it that concern the topic. -/
theorem share_after_filter (history : List BusAct) (topic : Topic) :
    (after (history.filter (·.concerns topic))).share topic = (after history).share topic := by
  induction history using List.reverseRecOn with
  | nil => rfl
  | append_singleton history a ih =>
    rw [List.filter_append, after_snoc]
    cases hconcerns : a.concerns topic with
    | false =>
      have hnone : [a].filter (·.concerns topic) = [] :=
        List.filter_cons_of_neg (by simp [hconcerns])
      rw [hnone, List.append_nil, ih, share_act_of_not_concerns hconcerns]
    | true =>
      have hsame : [a].filter (·.concerns topic) = [a] := List.filter_cons_of_pos hconcerns
      rw [hsame, after_snoc]
      exact share_act_congr ih a

end Traffic

/-! ## One topic -/

/-- What an act does to the slot of a topic, with what comes of it. -/
inductive Slot.Changes (topic : Topic) (s : Slot) : BusAct → Option BusNote → Slot → Prop
  | stays {a : BusAct} {note? : Option BusNote} (hact : a ≠ .unsubscribe topic)
      (hqueued : note? ≠ some (.delivered topic .queued))
      (hreceived : note? ≠ some (.arrived topic .received)) : s.Changes topic a note? s
  | queue (hsubscribed : s.subscribed = true) (hempty : s.full = false) :
      s.Changes topic (.notify topic) (some (.delivered topic .queued)) s.notify
  | receive (hsubscribed : s.subscribed = true) (hfull : s.full = true) :
      s.Changes topic (.look topic) (some (.arrived topic .received)) s.take
  | unsubscribe : s.Changes topic (.unsubscribe topic) none s.unsubscribe

theorem Slot.changes_notify (s : Slot) (topic : Topic) :
    s.Changes topic (.notify topic) (some (.delivered topic s.delivery)) s.notify := by
  rw [delivery]
  obtain ⟨_ | _, _ | _⟩ := s
  · exact .stays (by simp) (by simp) (by simp)
  · exact .queue rfl rfl
  · exact .stays (by simp) (by simp) (by simp)
  · exact .stays (by simp) (by simp) (by simp)

theorem Bus.changes_take {b : Bus} {topic : Topic} (h : (b.slot topic).subscribed = true) :
    (b.slot topic).Changes topic (.look topic) (some (.arrived topic (b.arrival topic)))
      (b.slot topic).take := by
  rw [arrival]
  cases hfull : (b.slot topic).full with
  | true => exact .receive h hfull
  | false =>
    have hsame : (b.slot topic).take = b.slot topic := by rw [Slot.take, ← hfull]
    rw [hsame, if_neg Bool.false_ne_true]
    refine .stays (by simp) (by simp) ?_
    split <;> simp

/-- An act changes a slot in one of these ways. -/
theorem Bus.changes_act (b : Bus) (a : BusAct) (topic : Topic) :
    (b.slot topic).Changes topic a (b.note? a) ((b.act a).slot topic) := by
  cases hconcerns : a.concerns topic with
  | false =>
    -- Such an act leaves the slot, and what comes of it is not about the topic.
    rw [(act_of_not_concerns hconcerns).1]
    have hnote (n : BusNote) (hn : n.topic = topic) : b.note? a ≠ some n := fun h => by
      simp [concerns_of_note? h, hn] at hconcerns
    refine .stays (fun hact => ?_) (hnote _ rfl) (hnote _ rfl)
    simp [hact, BusAct.concerns] at hconcerns
  | true =>
    cases a with
    | notify t =>
      obtain rfl : t = topic := of_decide_eq_true hconcerns
      by_cases hhandles : b.handles = 0
      · rw [act, if_pos hhandles, note?, if_pos hhandles]
        exact .stays (by simp) (by simp) (by simp)
      · rw [act, if_neg hhandles, note?, if_neg hhandles, notify, slot_modify_self, delivery]
        exact (b.slot t).changes_notify t
    | look t =>
      obtain rfl : t = topic := of_decide_eq_true hconcerns
      by_cases hsubscribed : (b.slot t).subscribed = true
      · rw [act, if_pos hsubscribed, note?, if_pos hsubscribed, slot_receive]
        exact changes_take hsubscribed
      · rw [act, if_neg hsubscribed, note?, if_neg hsubscribed]
        exact .stays (by simp) (by simp) (by simp)
    | unsubscribe t =>
      obtain rfl : t = topic := of_decide_eq_true hconcerns
      rw [act, note?, Bus.unsubscribe, slot_modify_self]
      exact .unsubscribe
    | cloneHandle =>
      rw [act, note?, slot_cloneHandle]
      exact .stays (by simp) (by simp) (by simp)
    | dropHandle =>
      rw [act, note?, slot_dropHandle]
      exact .stays (by simp) (by simp) (by simp)

namespace Traffic

variable {x : Traffic} {history : List BusAct} {topic : Topic}

theorem count_act (x : Traffic) (a : BusAct) (n : BusNote) : (x.act a).notes.count n =
    x.notes.count n + if x.bus.note? a = some n then 1 else 0 := by
  rw [act, List.count_append]
  cases x.bus.note? a with
  | none => rfl
  | some m => simp [List.count_singleton]

/-- A notification that coalesces is counted, and nothing else under its topic. -/
theorem value_act (x : Traffic) (a : BusAct) (topic : Topic) :
    (x.act a).counters.value (.coalesced topic) = x.counters.value (.coalesced topic) +
      if x.bus.note? a = some (.delivered topic .coalesced) then 1 else 0 := by
  rw [act]
  cases x.bus.note? a with
  | none => rfl
  | some n =>
    obtain ⟨t, _ | _ | _⟩ | _ := n
    · simp [BusNote.counted, Counters.countDelivery]
    · simp [BusNote.counted, Counters.countDelivery, Counters.value_count]
    · simp [BusNote.counted, Counters.countDelivery]
    · simp [BusNote.counted]

/-- How the slot of a topic stands after all that was done. -/
structure Balanced (topic : Topic) (history : List BusAct) (x : Traffic) : Prop where
  subscribed : (x.bus.slot topic).subscribed = true ↔ .unsubscribe topic ∉ history
  conserved : (x.bus.slot topic).subscribed = true →
    x.notes.count (.delivered topic .queued) =
      x.notes.count (.arrived topic .received) + (x.bus.slot topic).full.toNat

/-- The balance is kept by every act. -/
theorem Balanced.act (h : Balanced topic history x) (a : BusAct) :
    Balanced topic (history ++ [a]) (x.act a) := by
  have hqueued := x.count_act a (.delivered topic .queued)
  have hreceived := x.count_act a (.arrived topic .received)
  have hchanges := x.bus.changes_act a topic
  -- In both parts what matters of the act is how it changes the slot and what is noted.
  constructor <;> rw [show (x.act a).bus = x.bus.act a from rfl]
  · rw [List.mem_append, not_or, List.mem_singleton, ← h.subscribed]
    generalize x.bus.note? a = note?, (x.bus.act a).slot topic = s at hchanges
    cases hchanges with
    | stays hact => exact ⟨fun h => ⟨h, Ne.symm hact⟩, And.left⟩
    | queue | receive => exact ⟨fun h => ⟨h, nofun⟩, And.left⟩
    | unsubscribe => exact ⟨nofun, fun h => absurd rfl h.2⟩
  · rw [hqueued, hreceived]
    generalize x.bus.note? a = note?, (x.bus.act a).slot topic = s at hchanges
    cases hchanges with
    | stays _ hnotQueued hnotReceived =>
      rw [if_neg hnotQueued, if_neg hnotReceived]
      exact h.conserved
    | queue hsubscribed hempty =>
      intro _
      have hbalance := h.conserved hsubscribed
      rw [hempty] at hbalance
      simp [Slot.notify, hsubscribed, hbalance]
    | receive hsubscribed hfull =>
      intro _
      have hbalance := h.conserved hsubscribed
      rw [hfull] at hbalance
      simp [Slot.take, hbalance]
    | unsubscribe => exact nofun

theorem balanced_after (topic : Topic) (history : List BusAct) :
    Balanced topic history (after history) := by
  induction history using List.reverseRecOn with
  | nil =>
    have hfresh : Bus.fresh.slot topic = .fresh := by cases topic <;> rfl
    constructor <;> rw [show (after []).bus = .fresh from rfl, hfresh]
    · exact ⟨fun _ => nofun, fun _ => rfl⟩
    · exact fun _ => rfl
  | append_singleton history a ih =>
    rw [after_snoc]
    exact ih.act a

/-- Each notification that coalesced was counted. -/
theorem value_after (history : List BusAct) (topic : Topic) :
    (after history).counters.value (.coalesced topic) =
      (after history).notes.count (.delivered topic .coalesced) := by
  induction history using List.reverseRecOn with
  | nil => rfl
  | append_singleton history a ih => rw [after_snoc, value_act, count_act, ih]

/-- The bus is a queue of one place for each topic, and these are independent. -/
theorem lawful_after (topic : Topic) (history : List BusAct) : Lawful topic history where
  notified hleft := by
    have hsubscribed := (balanced_after topic history).subscribed
    have hhandles : (after history).bus.handles ≠ 0 := fun hnone =>
      handles_eq_zero_iff.1 hnone hleft
    rw [Bus.note?, if_neg hhandles, Bus.delivery, Slot.delivery]
    by_cases hdropped : .unsubscribe topic ∈ history
    · rw [if_pos hdropped, Bool.eq_false_iff.2 fun h => hsubscribed.1 h hdropped]
      rfl
    · rw [if_neg hdropped, hsubscribed.2 hdropped]
      rfl
  conserved hlives := by
    have hbalanced := balanced_after topic history
    exact hbalanced.conserved (hbalanced.subscribed.2 hlives)
  looked hlives := by
    rw [Bus.note?, if_pos ((balanced_after topic history).subscribed.2 hlives)]
    refine ⟨_, rfl, Bus.arrival_eq_received_iff, ?_⟩
    rw [← handles_eq_zero_iff]
    exact Bus.arrival_eq_closed_iff
  counted := value_after history topic
  independent history' h := by
    -- Both histories have the share of the acts that concern the topic.
    have hshare := share_after_filter history' topic
    rw [h, share_after_filter] at hshare
    exact (congrArg (·.2.2) hshare).symm

/-- The last handle is dropped while a notification waits, into which another one coalesced. -/
def drainedHistory : List BusAct :=
  [.notify .alertChanged, .notify .alertChanged, .cloneHandle, .dropHandle, .dropHandle]

/-- A handle that was copied notifies when the one it was copied from is gone. What waits when the
last one is dropped is received, and the end is found only then. -/
theorem lawful_after_drained :
    (after [.cloneHandle, .dropHandle]).bus.note? (.notify .alertChanged) =
        some (.delivered .alertChanged .queued) ∧
      (after drainedHistory).bus.note? (.look .alertChanged) =
        some (.arrived .alertChanged .received) ∧
      (after (drainedHistory ++ [.look .alertChanged])).bus.note? (.look .alertChanged) =
        some (.arrived .alertChanged .closed) := by
  refine ⟨?_, ?_, ?_⟩
  · exact (lawful_after .alertChanged [.cloneHandle, .dropHandle]).notified (by decide)
  · obtain ⟨arrival, hnote, hreceived, -⟩ :=
      (lawful_after .alertChanged drainedHistory).looked (by decide)
    rw [hnote, hreceived.2 (by decide)]
  · obtain ⟨arrival, hnote, -, hclosed⟩ :=
      (lawful_after .alertChanged (drainedHistory ++ [.look .alertChanged])).looked (by decide)
    rw [hnote, hclosed.2 (by decide)]

end Traffic

end AlertSync
