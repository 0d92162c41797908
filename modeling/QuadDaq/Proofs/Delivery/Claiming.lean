import QuadDaq.Proofs.Delivery.Attendance

/-!
# Events are claimed

**An event goes unclaimed only while its consumer is detained**: while the consumer that was
registered last has not returned from a call of a stream that was stopped. Otherwise it is
in its place, or the current outlet is inside a call with it and takes up nothing
(`Attended.ready`).

Only a stop detains a consumer, so one that is free stays so until then (`Free`).
-/

namespace QuadDaq

/-! ### Missed consumers -/

/-- The kind of the consumer that was missed in its place. -/
def DeliveryEvent.missed? : DeliveryEvent → Option EventKind
  | .transitionUnclaimed .. => some .button
  | .errorsUnclaimed .. => some .error
  | .received .. | .batch .. | .batchDone .. | .transition .. | .errors .. | .lost ..
  | .discarded .. => none

theorem TakenEvent.missed?_unclaimed (event : TakenEvent) (k : Nat) :
    (event.unclaimed k).missed? = some event.kind := by
  cases event <;> rfl

theorem TakenEvent.missed?_called (event : TakenEvent) (k : Nat) (consumer : String) :
    (event.called k consumer).missed? = none := by
  cases event <;> rfl

/-- From one state to a later one no consumer of this kind was missed. -/
def Consumers.Claims (kind : EventKind) (c c' : Consumers) : Prop :=
  ∃ added, c'.log.toList = c.log.toList ++ added ∧ ∀ event ∈ added, event.missed? ≠ some kind

namespace Consumers.Claims

variable {kind : EventKind} {c c₁ c' : Consumers}

theorem of_log (h : c'.log = c.log) : Claims kind c c' :=
  ⟨[], by rw [h, List.append_nil], by simp⟩

theorem trans (h : Claims kind c c₁) (h' : Claims kind c₁ c') : Claims kind c c' := by
  obtain ⟨added, hlog, hadded⟩ := h
  obtain ⟨added', hlog', hadded'⟩ := h'
  refine ⟨added ++ added', by rw [hlog', hlog, List.append_assoc], ?_⟩
  intro event hevent
  rcases List.mem_append.mp hevent with hfirst | hthen
  · exact hadded event hfirst
  · exact hadded' event hthen

theorem note {event : DeliveryEvent} (h : event.missed? ≠ some kind) : Claims kind c (c.note event) :=
  ⟨[event], Array.toList_push, by simpa using h⟩

end Consumers.Claims

/-- A worker misses nobody whose place is taken, and an outlet that is closed or inside a call
calls nobody. -/
theorem Work.claims {c c' : Consumers} {o o' : Outlet} {kind : EventKind}
    (h : Work (c, o) (c', o'))
    (hplace : (c.registration kind).current.isSome ∨ o.closed = true ∨ o.eventCall.isSome) :
    Consumers.Claims kind c c' := by
  cases h with
  | batchBegan _ _ _ => exact .note (by simp [DeliveryEvent.missed?])
  | batchEnded _ => exact .note (by simp [DeliveryEvent.missed?])
  | eventEnded _ => exact .of_log (Consumers.setRegistration_log _ _ _)
  | eventBegan hbegin =>
      obtain ⟨hopen, hfree, event, rest, -, hkind, hcall⟩ := Consumers.beginEvent_takes hbegin
      rcases hcall with ⟨hmissed, rfl, -⟩ | ⟨consumer, -, rfl, -⟩
      · refine .note ?_
        rcases hplace with hplace | hclosed | hbusy
        · -- Another consumer than this one is missed.
          rintro heq
          rw [event.missed?_unclaimed, Option.some.injEq] at heq
          rw [← hkind, heq] at hmissed
          rw [hmissed] at hplace
          cases hplace
        · rw [hopen] at hclosed
          cases hclosed
        · rw [hfree] at hbusy
          cases hbusy
      · have hcalled : (event.called o.stream consumer).missed? ≠ some kind := by
          rw [event.missed?_called]
          exact Option.some_ne_none kind |>.symm
        exact .trans (.of_log (Consumers.setRegistration_log c _ _)) (.note hcalled)

namespace Delivery

variable {d d' : Delivery} {kind : EventKind}

/-- Unless its consumer is detained, an open outlet finds it in its place, or is inside a call
itself. -/
theorem Attended.ready (hd : d.Attended) (hregistered : d.Registered kind)
    (hfree : ¬d.Detained kind) {o : Outlet} (ho : d.current = some o) :
    (d.registration kind).current.isSome ∨ o.eventCall.isSome := by
  refine (hd.housed kind hregistered).imp_right ?_
  rintro ⟨x, hx, hheld⟩
  rw [outlets, ho] at hx
  rcases List.mem_append.mp hx with hcurrent | hretired
  · obtain ⟨call, hcall, -⟩ := hheld
    rw [← List.mem_singleton.mp hcurrent, hcall]
    rfl
  · exact absurd ⟨x, hretired, hheld⟩ hfree

/-- As long as a registered consumer is not detained, it is not missed. -/
theorem Turn.claims (h : Turn d d') (hd : d.Attended) (ht : d.Tidy)
    (hregistered : d.Registered kind) (hfree : ¬d.Detained kind) :
    Consumers.Claims kind d.toConsumers d'.toConsumers := by
  cases h with
  | worked ho hwork => exact hwork.claims ((hd.ready hregistered hfree ho).imp_right .inr)
  | @workedRetired before after o o' c' hr hwork =>
      refine hwork.claims (.inr (.inl (ht.retired o ?_).1))
      rw [hr]
      exact List.mem_append_right _ List.mem_cons_self
  | letGo _ _ => exact .of_log rfl
  | registered kind' consumer => exact .of_log (Consumers.setRegistration_log _ _ _)
  | held kind' on => exact .of_log rfl

/-- Neither does a publication or a stop. -/
theorem publish_claims (d : Delivery) (k : Nat) (signal : Signal) :
    Consumers.Claims kind d.toConsumers (d.publish k signal).toConsumers := by
  have hreceived : Consumers.Claims kind d.toConsumers (d.note (.received k signal)) :=
    .note (by simp [DeliveryEvent.missed?])
  have hforfeit : ∀ c, Consumers.Claims kind c (forfeit c k signal) := by
    intro c
    cases signal with
    | batch b => exact .note (by simp [DeliveryEvent.missed?])
    | transition t => exact .note (by simp [DeliveryEvent.missed?])
    | error code message => exact .of_log rfl
  have hlose : ∀ c loss, Consumers.Claims kind c (c.lose k loss) := by
    intro c loss
    rcases loss with _ | (b | t)
    · exact .of_log rfl
    · exact .note (by simp [DeliveryEvent.missed?])
    · exact .note (by simp [DeliveryEvent.missed?])
  unfold publish
  cases d.current with
  | none => exact hreceived.trans (hforfeit _)
  | some o =>
      by_cases hk : o.stream = k
      · simp only [if_pos hk]
        exact hreceived.trans (hlose _ _)
      · simp only [if_neg hk]
        exact hreceived.trans (hforfeit _)

theorem publishAll_claims (k : Nat) (signals : List Signal) :
    ∀ d : Delivery, Consumers.Claims kind d.toConsumers (d.publishAll k signals).toConsumers := by
  induction signals with
  | nil => exact fun d => .of_log rfl
  | cons s rest ih => exact fun d => (d.publish_claims k s).trans (ih (d.publish k s))

theorem closeStream_claims (d : Delivery) :
    Consumers.Claims kind d.toConsumers d.closeStream.toConsumers := by
  cases ho : d.current with
  | none => exact .of_log (by simp only [closeStream, ho])
  | some o =>
      rw [closeStream_eq ho]
      exact .note (by simp [DeliveryEvent.missed?])

/-! ### Free consumers -/

/-- A consumer of this kind was registered and is not detained. -/
structure Free (kind : EventKind) (d : Delivery) : Prop where
  attended : d.Attended
  tidy : d.Tidy
  registered : d.Registered kind
  free : ¬d.Detained kind

theorem Turn.generation_le (h : Turn d d') (kind : EventKind) :
    (d.registration kind).generation ≤ (d'.registration kind).generation := by
  cases h with
  | worked _ h => exact Nat.le_of_eq (h.generation_eq kind).symm
  | workedRetired _ h => exact Nat.le_of_eq (h.generation_eq kind).symm
  | letGo _ _ => exact Nat.le_refl _
  | registered kind' consumer =>
      rw [show (d.register kind' consumer).registration kind = _ from
        Consumers.setRegistration_registration d.toConsumers kind' _ kind]
      split
      · next heq =>
          rw [heq]
          exact Nat.le_succ _
      · exact Nat.le_refl _
  | held kind' on => cases kind <;> exact Nat.le_refl _

/-- Once a consumer was registered, one always was. -/
theorem Change.registered {n : Nat} (h : Change n d d') (hd : d.Registered kind) :
    d'.Registered kind := by
  cases h with
  | turned hturn => exact Nat.lt_of_lt_of_le hd (hturn.generation_le kind)
  | @received k signal _ =>
      rw [Registered, (d.publish_places k signal).1]
      exact hd
  | opened _ _ _ _ => exact hd
  | closed _ =>
      rw [Registered, d.closeStream_places]
      exact hd

/-- Workers and consumers detain nobody. -/
theorem Turn.not_detained (h : Turn d d') (hd : d.Attended) (ht : d.Tidy) (hfree : ¬d.Detained kind) :
    ¬d'.Detained kind := by
  rintro ⟨x, hx, hheld⟩
  cases h with
  | worked ho hwork =>
      rw [hwork.generation_eq] at hheld
      exact hfree ⟨x, hx, hheld⟩
  | @workedRetired before after o o' c' hr hwork =>
      rw [hwork.generation_eq] at hheld
      have hclosed := (ht.retired o (by rw [hr]; exact List.mem_append_right _ List.mem_cons_self)).1
      -- A retired outlet begins no call, so it was inside this one before.
      have hback : o'.Holds kind (d.registration kind).generation →
          o.Holds kind (d.registration kind).generation := by
        rintro ⟨call, hcall, hcall'⟩
        rcases hwork.place_cases with ⟨kind', consumer, hopen, -⟩ | ⟨call', -, hnone, -⟩ |
          ⟨-, hsame⟩
        · rw [hclosed] at hopen
          cases hopen
        · rw [hnone] at hcall
          cases hcall
        · exact ⟨call, hsame ▸ hcall, hcall'⟩
      simp only [List.mem_append, List.mem_cons] at hx
      rcases hx with hmem | rfl | hmem
      · exact hfree ⟨x, by simp [hr, hmem], hheld⟩
      · exact hfree ⟨o, by simp [hr], hback hheld⟩
      · exact hfree ⟨x, by simp [hr, hmem], hheld⟩
  | @letGo before after o hr _ =>
      refine hfree ⟨x, ?_, hheld⟩
      rw [hr]
      simp only [List.mem_append, List.mem_cons] at hx ⊢
      exact hx.imp_right .inr
  | registered kind' consumer =>
      rw [show (d.register kind' consumer).registration kind = _ from
        Consumers.setRegistration_registration d.toConsumers kind' _ kind] at hheld
      split at hheld
      · -- No call is with a consumer as new as this one.
        next heq =>
          obtain ⟨call, hcall, hkind, hloan⟩ := hheld
          have hle := hd.aged x (List.mem_append_right _ hx) call hcall
          rw [hkind, hloan, heq] at hle
          exact absurd hle (Nat.not_succ_le_self _)
      · exact hfree ⟨x, hx, hheld⟩
  | held kind' on =>
      refine hfree ⟨x, hx, ?_⟩
      cases kind <;> exact hheld

/-- A free consumer stays so whatever workers and consumers do. -/
theorem Free.turn (hf : d.Free kind) (h : Turn d d') : d'.Free kind :=
  ⟨h.attended hf.attended, h.tidy hf.tidy, Nat.lt_of_lt_of_le hf.registered (h.generation_le kind),
    h.not_detained hf.attended hf.tidy hf.free⟩

/-- So it does whatever is published, -/
theorem Free.publishAll {n k : Nat} (hk : k ≤ n) (signals : List Signal) :
    ∀ {d : Delivery}, d.Free kind → (d.publishAll k signals).Free kind := by
  induction signals with
  | nil => exact fun hf => hf
  | cons s rest ih =>
      intro d hf
      have hchange : Change n d (d.publish k s) := .received d s hk
      obtain ⟨hplaces, hretired, -⟩ := d.publish_places k s
      refine ih ⟨hchange.attended hf.attended, hchange.tidy hf.tidy, ?_, ?_⟩
      · rw [Registered, hplaces]
        exact hf.registered
      · rw [Detained, hplaces, hretired]
        exact hf.free

/-- and when another stream opens. -/
theorem Free.opened {n m k capacity : Nat} (hf : d.Free kind) (hnone : d.current = none)
    (hd : d.Numbered m) (hm : m < k) (hk : k ≤ n) : (d.openStream k capacity).Free kind := by
  have hchange : Change n d (d.openStream k capacity) := .opened hnone hd hm hk
  exact ⟨hchange.attended hf.attended, hchange.tidy hf.tidy, hf.registered, hf.free⟩

/-- As long as a consumer is free it is not missed. -/
theorem Free.claims (hf : d.Free kind) (h : Turn d d') :
    Consumers.Claims kind d.toConsumers d'.toConsumers :=
  h.claims hf.attended hf.tidy hf.registered hf.free

end Delivery

end QuadDaq
