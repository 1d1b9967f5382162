import ScatterGather.Cell.Basic
import ScatterGather.Proofs.Document.Records

/-!
# Cells are read back

What is written of a canonical cell is read back as that cell (`Cell.ofDocument_toDocument`), and it
is plain. The names of a canonical record ascend, so each name that is read goes behind those that
are there (`insertField_of_lt`), and the order of the names is kept.
-/

namespace ScatterGather

/-! ### Numbers -/

theorem CellInt.ofInt?_val (n : CellInt) : ofInt? n.val = some n := dif_pos ⟨n.lower, n.upper⟩

namespace Cell

theorem ofInt_val (n : CellInt) : ofInt n.val = .integer n := by
  rw [ofInt, n.ofInt?_val]

theorem ofFloat_val (x : CellFloat) : ofFloat x.val = .float x := dif_pos x.finite

/-! ### Names in order -/

/-- A name above all that are there goes behind them. -/
theorem insertField_of_lt {name : String} {value : Cell} {fields : List (String × Cell)}
    (h : ∀ f ∈ fields, f.1 < name) :
    insertField name value fields = fields ++ [(name, value)] := by
  induction fields with
  | nil => rfl
  | cons f fields ih =>
      obtain ⟨n, v⟩ := f
      obtain ⟨hn, hfields⟩ := List.forall_mem_cons.mp h
      have hlt : ¬ name < n := String.lt_asymm hn
      have hne : name ≠ n := by
        rintro rfl
        exact String.lt_irrefl name hn
      rw [insertField, if_neg hlt, if_neg hne, ih hfields]
      rfl

/-- Names ascend strictly when every one is below all that follow it. -/
theorem namesAscend_iff {fields : List (String × Cell)} :
    namesAscend fields = true ↔ fields.Pairwise fun f g => f.1 < g.1 := by
  have : IsTrans (String × Cell) fun f g => f.1 < g.1 := ⟨fun _ _ _ => String.lt_trans⟩
  rw [← List.isChain_iff_pairwise]
  induction fields with
  | nil => simp [namesAscend]
  | cons f fields ih =>
      cases fields with
      | nil => simp [namesAscend]
      | cons g fields =>
          rw [namesAscend, Bool.and_eq_true, decide_eq_true_eq, List.isChain_cons_cons]
          exact and_congr_right' ih

/-! ### Reading back -/

mutual

/-- **A canonical cell is read back.** -/
theorem ofDocument_toDocument : ∀ c : Cell, c.canonical = true → ofDocument c.toDocument = .ok c
  | .null, _ | .bool _, _ | .text _, _ => by simp [toDocument, ofDocument]
  | .integer n, _ => by rw [toDocument, ofDocument, ofInt_val]
  | .float x, _ => by rw [toDocument, ofDocument, ofFloat_val]
  | .list items, h => by
      rw [canonical] at h
      rw [toDocument, ofDocument, listOfDocument_listToDocument items h]
      rfl
  | .record fields, h => by
      rw [canonical, Bool.and_eq_true, namesAscend_iff] at h
      rw [toDocument, ofDocument, fieldsOfDocument_fieldsToDocument [] fields h.1 h.2]
      rfl

/-- Canonical cells are read back one after another. -/
theorem listOfDocument_listToDocument :
    ∀ cs : List Cell, allCanonical cs = true → listOfDocument (listToDocument cs) = .ok cs
  | [], _ => by simp [listToDocument, listOfDocument]
  | c :: cs, h => by
      rw [allCanonical, Bool.and_eq_true] at h
      rw [listToDocument, listOfDocument, ofDocument_toDocument c h.1,
        listOfDocument_listToDocument cs h.2]
      rfl

/-- Named cells are read behind those that are there, as their names ascend. -/
theorem fieldsOfDocument_fieldsToDocument (done : List (String × Cell)) :
    ∀ fs : List (String × Cell), ((done ++ fs).Pairwise fun f g => f.1 < g.1) →
      fieldsCanonical fs = true → fieldsOfDocument done (fieldsToDocument fs) = .ok (done ++ fs)
  | [], _, _ => by simp [fieldsToDocument, fieldsOfDocument]
  | (n, c) :: fs, hnames, h => by
      rw [fieldsCanonical, Bool.and_eq_true] at h
      have hlast : ∀ f ∈ done, f.1 < n := by
        intro f hf
        exact (List.pairwise_append.mp hnames).2.2 f hf (n, c) List.mem_cons_self
      rw [List.append_cons] at hnames ⊢
      rw [fieldsToDocument, fieldsOfDocument, ofDocument_toDocument c h.1]
      simp only [bind, Except.bind, insertField_of_lt hlast]
      exact fieldsOfDocument_fieldsToDocument _ fs hnames h.2

end

/-! ### Plainness -/

mutual

/-- What is written of a cell is plain. -/
theorem plain_toDocument : ∀ c : Cell, c.toDocument.Plain
  | .null => by rw [toDocument]; exact .nil
  | .bool b => by rw [toDocument]; exact .bool b
  | .integer n => by rw [toDocument]; exact .integer n.lower n.upper
  | .float x => by rw [toDocument]; exact .float x.val
  | .text s => by rw [toDocument]; exact .text s
  | .list items => by rw [toDocument]; exact .list (plain_listToDocument items)
  | .record fields => by
      rw [toDocument]
      exact .table (fun e he => (plain_fieldsToDocument fields e he).1)
        fun e he => (plain_fieldsToDocument fields e he).2

/-- What is written of a list of cells is plain. -/
theorem plain_listToDocument : ∀ cs : List Cell, ∀ d ∈ listToDocument cs, d.Plain
  | [] => by simp [listToDocument]
  | c :: cs => by
      rw [listToDocument, List.forall_mem_cons]
      exact ⟨plain_toDocument c, plain_listToDocument cs⟩

/-- What is written of named cells is plain. -/
theorem plain_fieldsToDocument :
    ∀ fs : List (String × Cell), ∀ e ∈ fieldsToDocument fs, e.1.Plain ∧ e.2.Plain
  | [] => by simp [fieldsToDocument]
  | (n, c) :: fs => by
      rw [fieldsToDocument, List.forall_mem_cons]
      exact ⟨⟨.text n, plain_toDocument c⟩, plain_fieldsToDocument fs⟩

end

end Cell

end ScatterGather
