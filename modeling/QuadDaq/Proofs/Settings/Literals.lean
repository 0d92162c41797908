import QuadDaq.Proofs.Settings.Later
import QuadDaq.Proofs.Settings.Presets
import QuadDaq.Proofs.Settings.Shaping

/-!
# What a document writes

**A document lies over the store like a layer**: a setting that it binds to a literal has that
value afterwards, and every other one stays (`Store.under`). That is all an accepted document
does, apart from the bridge epoch (`Document.foldl_assign_eq`). What it is made of does not
depend on the store.
-/

namespace QuadDaq

/-! ### Literals as values -/

/-- The bridge that a literal selects. -/
def Json.asBridge? (literal : Json) : Option Bridge := literal.asInt64?.bind Bridge.ofInt?

/-- The value for each channel that a literal holds. -/
def Json.asRow? : Json → Option Row
  | .arr items => (items.mapM Json.asFloat?).bind PerChannel.ofList?
  | _ => none

namespace Settings

/-- What the document binds a setting to, unless it asks for it. -/
def Document.literal? (d : Document) (key : Key) : Option Json := d.literals.lookup key.name

/-- The store under a document: settings that the document gives cover those of the store. -/
def Store.under (s : Store) (d : Document) : Store where
  snapshot :=
    { bridge := ((d.literal? .bridge).bind Json.asBridge?).getD s.snapshot.bridge
      bridgeEpoch := s.snapshot.bridgeEpoch
      offsets := ((d.literal? .offset).bind Json.asRow?).getD s.snapshot.offsets
      gains := ((d.literal? .gain).bind Json.asRow?).or s.snapshot.gains
      transmissions := ((d.literal? .transmission).bind Json.asRow?).or s.snapshot.transmissions }
  shape := s.shape.written ((d.literal? .sampleRate).bind (·.asNat? 32))
    ((d.literal? .burstSize).bind (·.asNat? 64))
  frozen := s.frozen

/-! ### Assignments of literals -/

namespace Assignment

/-- The offsets that an assignment writes. -/
def offsets? : Assignment → Option Row
  | offsets row => some row
  | _ => none

/-- The gains that an assignment writes. -/
def gains? : Assignment → Option Row
  | gains row => some row
  | _ => none

/-- The transmissions that an assignment writes. -/
def transmissions? : Assignment → Option Row
  | transmissions row => some row
  | _ => none

end Assignment

theorem channelValues_inv {key : Key} {literal : Json} {row : Row}
    (h : channelValues key literal = .ok row) : literal.asRow? = some row := by
  unfold channelValues at h
  split at h
  · split at h
    · cases h
    split at h
    · next hrow =>
        cases h
        exact hrow
    · cases h
  · cases h

/-- A view of assignments that sees those of one setting only sees of a literal what it is read
as there. -/
theorem Key.assignment_view {γ : Type} {view : Assignment → Option γ} {key : Key}
    {read : Json → Option γ} (hother : ∀ {a}, a.key ≠ key → view a = none)
    (hread : ∀ {literal a}, key.assignment literal = .ok a → view a = read literal)
    {key' : Key} {literal : Json} {a : Assignment} (h : key'.assignment literal = .ok a) :
    view a = if key' = key then read literal else none := by
  split
  · next heq => exact hread (heq ▸ h)
  · next hne => exact hother ((Key.assignment_inv h).1 ▸ hne)

theorem Key.assignment_bridge? {key : Key} {literal : Json} {a : Assignment}
    (h : key.assignment literal = .ok a) :
    a.bridge? = if key = .bridge then literal.asBridge? else none := by
  refine assignment_view Assignment.bridge?_eq_none_of_key (fun h => ?_) h
  simp only [assignment] at h
  split at h
  · next n hn =>
      unfold Assignment.ofSelection at h
      split at h
      · next b hb =>
          cases h
          simp only [Json.asBridge?, hn, Option.bind_some, hb]
          rfl
      · cases h
  · cases h

/-- The same for the settings that have a value for each channel. -/
theorem Key.assignment_row? {view : Assignment → Option Row} {key : Key}
    {check : Row → Except Refusal Assignment}
    (hother : ∀ {a}, a.key ≠ key → view a = none)
    (hcheck : ∀ {row a}, check row = .ok a → view a = some row)
    (hkey : ∀ literal, key.assignment literal = channelValues key literal >>= check)
    {key' : Key} {literal : Json} {a : Assignment} (h : key'.assignment literal = .ok a) :
    view a = if key' = key then literal.asRow? else none := by
  refine assignment_view hother (fun h => ?_) h
  obtain ⟨row, hrow, hchecked⟩ := bind_eq_ok.mp ((hkey _).symm.trans h)
  rw [hcheck hchecked, channelValues_inv hrow]

theorem Key.assignment_offsets? {key : Key} {literal : Json} {a : Assignment}
    (h : key.assignment literal = .ok a) :
    a.offsets? = if key = .offset then literal.asRow? else none := by
  refine assignment_row? (fun {a} hne => ?_) (fun h => ?_) (fun _ => rfl) h
  · cases a <;> first | rfl | exact absurd rfl hne
  · obtain ⟨-, rfl⟩ := Assignment.checkOffsets_eq_ok_iff.mp h
    rfl

theorem Key.assignment_gains? {key : Key} {literal : Json} {a : Assignment}
    (h : key.assignment literal = .ok a) :
    a.gains? = if key = .gain then literal.asRow? else none := by
  refine assignment_row? (fun {a} hne => ?_) (fun h => ?_) (fun _ => rfl) h
  · cases a <;> first | rfl | exact absurd rfl hne
  · obtain ⟨-, rfl⟩ := Assignment.checkGains_eq_ok_iff.mp h
    rfl

theorem Key.assignment_transmissions? {key : Key} {literal : Json} {a : Assignment}
    (h : key.assignment literal = .ok a) :
    a.transmissions? = if key = .transmission then literal.asRow? else none := by
  refine assignment_row? (fun {a} hne => ?_) (fun h => ?_) (fun _ => rfl) h
  · cases a <;> first | rfl | exact absurd rfl hne
  · obtain ⟨-, rfl⟩ := Assignment.checkTransmissions_eq_ok_iff.mp h
    rfl

/-! ### What they leave in the store -/

section Part

variable {γ δ : Type} (part : Store → δ) (cover : Option γ → δ → δ) {view : Assignment → Option γ}

/-- If each assignment covers a part of the store with what it writes there, a batch covers it
with what its last one writes. -/
theorem Store.foldl_assign_part (hnone : ∀ x, cover none x = x)
    (hor : ∀ w w' x, cover (w.or w') x = cover w (cover w' x))
    (hassign : ∀ s a, part (assign s a) = cover (view a) (part s)) (batch : List Assignment) :
    ∀ s : Store, part (batch.foldl assign s) =
      cover (batch.filterMap view).getLast? (part s) := by
  induction batch with
  | nil => exact fun s => (hnone (part s)).symm
  | cons a batch ih =>
      intro s
      rw [List.foldl_cons, ih, hassign, getLast?_filterMap_cons, hor]

variable {d : Document} {batch : List Assignment} {key : Key} {read : Json → Option γ}

/-- A document covers such a part with the literal of its setting. -/
theorem Document.foldl_assign_part (hd : d.Sorted) (h : d.assignments = .ok batch)
    (hnone : ∀ x, cover none x = x) (hor : ∀ w w' x, cover (w.or w') x = cover w (cover w' x))
    (hassign : ∀ s a, part (Store.assign s a) = cover (view a) (part s))
    (hview : ∀ {key' literal a}, Key.assignment key' literal = .ok a →
      view a = if key' = key then read literal else none) (s : Store) :
    part (batch.foldl Store.assign s) = cover ((d.literal? key).bind read) (part s) := by
  rw [Store.foldl_assign_part part cover hnone hor hassign batch s,
    filterMap_literals hview (assignments_eq_ok_iff.mp h) hd.literals.names_nodup]
  rfl

end Part

/-- The literals of a document cover what the store had, and count in its epoch. -/
theorem Document.foldl_assign_eq {d : Document} {batch : List Assignment} (hd : d.Sorted)
    (h : d.assignments = .ok batch) (s : Store) :
    ∃ epoch, batch.foldl Store.assign s = (s.under d).later epoch := by
  have hbridge := foldl_assign_part (fun s => s.snapshot.bridge) Option.getD hd h
    (fun _ => rfl) (fun _ _ _ => Option.getD_or) (fun s a => (s.assign_bridge a).1)
    Key.assignment_bridge? s
  have hoffsets := foldl_assign_part (fun s => s.snapshot.offsets) Option.getD hd h
    (fun _ => rfl) (fun _ _ _ => Option.getD_or) (fun s a => by cases a <;> rfl)
    Key.assignment_offsets? s
  have hgains := foldl_assign_part (fun s => s.snapshot.gains) Option.or hd h
    (fun _ => rfl) (fun _ _ _ => Option.or_assoc) (fun s a => by cases a <;> rfl)
    Key.assignment_gains? s
  have htransmissions := foldl_assign_part (fun s => s.snapshot.transmissions) Option.or hd h
    (fun _ => rfl) (fun _ _ _ => Option.or_assoc) (fun s a => by cases a <;> rfl)
    Key.assignment_transmissions? s
  have hshape : (batch.foldl Store.assign s).shape = (s.under d).shape := by
    have hentries := assignments_eq_ok_iff.mp h
    rw [Store.foldl_assign_written,
      filterMap_literals Key.assignment_rate? hentries hd.literals.names_nodup,
      filterMap_literals Key.assignment_rows? hentries hd.literals.names_nodup]
    rfl
  have hfrozen : (batch.foldl Store.assign s).frozen = s.frozen :=
    Store.foldl_assign_preserves (P := fun s' => s'.frozen = s.frozen) (fun _ _ _ h => h) rfl
  generalize batch.foldl Store.assign s = t at *
  obtain ⟨⟨bridge, epoch, offsets, gains, transmissions⟩, shape, frozen⟩ := t
  refine ⟨epoch - s.snapshot.bridgeEpoch, ?_⟩
  simp only at hbridge hoffsets hgains htransmissions hshape hfrozen
  simp [hbridge, hoffsets, hgains, htransmissions, hshape, hfrozen, Store.later, Snapshot.later,
    Store.under]

end Settings

end QuadDaq
