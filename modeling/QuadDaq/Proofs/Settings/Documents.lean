import QuadDaq.Settings.Document

/-!
# Documents are maps

**A document holds each name once, in ascending order, bound to its last value** in the
text (`ofEntries_sorted`, `mem_ofEntries_iff`). Nothing else is known of how a document was
put together.
-/

namespace QuadDaq.Settings.Document

/-- Names ascend, and so none of them occurs twice. -/
def Sorted (d : Document) : Prop := d.Pairwise fun x y => x.1 < y.1

/-- The entries that are no queries. -/
def literals (d : Document) : Document := d.filter fun e => !isQuery e.2

/-! ### Names -/

theorem mem_insert {key : String} {value : Json} {d : Document} {entry : String × Json}
    (h : entry ∈ insert key value d) : entry = (key, value) ∨ entry ∈ d := by
  induction d with
  | nil => exact .inl (List.mem_singleton.mp h)
  | cons head rest ih =>
      unfold insert at h
      split at h
      · exact List.mem_cons.mp h
      split at h
      · exact (List.mem_cons.mp h).imp_right (List.mem_cons_of_mem _)
      · rcases List.mem_cons.mp h with rfl | hrest
        · exact .inr List.mem_cons_self
        · exact (ih hrest).imp_right (List.mem_cons_of_mem _)

theorem Sorted.insert {key : String} {value : Json} {d : Document} (h : d.Sorted) :
    (Document.insert key value d).Sorted := by
  induction d with
  | nil => exact List.pairwise_singleton _ _
  | cons head rest ih =>
      obtain ⟨hhead, hrest⟩ := List.pairwise_cons.mp h
      unfold Document.insert
      split
      · next hlt =>
          refine List.pairwise_cons.mpr ⟨fun entry hentry => ?_, h⟩
          rcases List.mem_cons.mp hentry with rfl | hmem
          · exact hlt
          · exact String.lt_trans hlt (hhead entry hmem)
      split
      · next heq =>
          subst heq
          exact List.pairwise_cons.mpr ⟨hhead, hrest⟩
      · next hge hne =>
          refine List.pairwise_cons.mpr ⟨fun entry hentry => ?_, ih hrest⟩
          rcases mem_insert hentry with rfl | hmem
          · exact Std.lt_of_le_of_ne (String.not_lt.mp hge) (Ne.symm hne)
          · exact hhead entry hmem

/-- The names of a document ascend. -/
theorem ofEntries_sorted (entries : List (String × Json)) : (ofEntries entries).Sorted := by
  suffices h : ∀ d : Document, d.Sorted →
      (entries.foldl (fun d e => insert e.1 e.2 d) d).Sorted from h [] .nil
  induction entries with
  | nil => exact fun d hd => hd
  | cons head rest ih => exact fun d hd => ih _ hd.insert

theorem Sorted.literals {d : Document} (h : d.Sorted) : d.literals.Sorted :=
  List.Pairwise.filter _ h

theorem Sorted.names_nodup {d : Document} (h : d.Sorted) : (d.map Prod.fst).Nodup := by
  rw [List.Nodup, List.pairwise_map]
  refine h.imp fun {x y} hlt heq => ?_
  rw [heq] at hlt
  exact String.lt_irrefl _ hlt

/-! ### Values -/

theorem lookup_cons (name : String) (entry : String × Json) (d : Document) :
    List.lookup name (entry :: d) =
      if name = entry.1 then some entry.2 else List.lookup name d := by
  obtain ⟨key, value⟩ := entry
  by_cases h : name = key
  · rw [if_pos h, h, List.lookup_cons_self]
  · have hne : (name == key) = false := beq_eq_false_iff_ne.mpr h
    rw [if_neg h, List.lookup_cons, hne]

theorem lookup_insert (key : String) (value : Json) (d : Document) (name : String) :
    (insert key value d).lookup name = if name = key then some value else d.lookup name := by
  induction d with
  | nil => exact lookup_cons name (key, value) []
  | cons head rest ih =>
      unfold insert
      split
      · exact lookup_cons name (key, value) (head :: rest)
      split
      · next heq =>
          rw [lookup_cons, lookup_cons]
          by_cases h : name = key <;> simp [h, ← heq]
      · next hne =>
          rw [lookup_cons, lookup_cons, ih]
          -- The name of the head is not the inserted one.
          by_cases h : name = head.1
          · simp [h, Ne.symm hne]
          · simp [h]

/-- Of several entries with one name the last one counts. -/
theorem lookup_ofEntries (entries : List (String × Json)) (name : String) :
    (ofEntries entries).lookup name = entries.reverse.lookup name := by
  suffices h : ∀ d : Document, (entries.foldl (fun d e => insert e.1 e.2 d) d).lookup name =
      (entries.reverse.lookup name).or (d.lookup name) by
    rw [ofEntries, h, List.lookup_nil, Option.or_none]
  induction entries with
  | nil => exact fun d => rfl
  | cons head rest ih =>
      intro d
      rw [List.foldl_cons, ih, lookup_insert, List.reverse_cons, List.lookup_append,
        Option.or_assoc, lookup_cons]
      by_cases h : name = head.1 <;> simp [h]

theorem Sorted.mem_iff {d : Document} (h : d.Sorted) {name : String} {value : Json} :
    (name, value) ∈ d ↔ d.lookup name = some value := by
  induction d with
  | nil => simp
  | cons head rest ih =>
      obtain ⟨hhead, hrest⟩ := List.pairwise_cons.mp h
      rw [List.mem_cons, lookup_cons, Prod.ext_iff]
      by_cases hname : name = head.1
      · -- The head is the only entry with its name.
        have hnot : (name, value) ∉ rest := by
          intro hmem
          have hlt := hhead _ hmem
          rw [← hname] at hlt
          exact String.lt_irrefl _ hlt
        rw [or_iff_left hnot, if_pos hname, Option.some.injEq, eq_comm (a := value)]
        exact and_iff_right hname
      · simp [hname, ih hrest]

/-- A document binds a name to its last value in the text. -/
theorem mem_ofEntries_iff {entries : List (String × Json)} {name : String} {value : Json} :
    (name, value) ∈ ofEntries entries ↔ entries.reverse.lookup name = some value := by
  rw [(ofEntries_sorted entries).mem_iff, lookup_ofEntries]

end QuadDaq.Settings.Document
