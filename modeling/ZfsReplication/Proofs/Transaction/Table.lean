import Mathlib
import ZfsReplication.Transaction.List

/-!
# The table of a transaction list

A transaction list renders as a table: a header line naming the columns, then one line per
transaction. The columns are the fields present in any transaction, in column order, the kind
first. Every cell is padded with spaces to the widest cell of its column, cells are two spaces
apart, and each line loses its trailing blanks.

So the columns stand at fixed offsets: column `j` starts after the columns before it, each as wide
as its widest cell plus the two spaces of the gap (`Table.start`). Cutting any line at these
offsets gives back each cell up to its trailing blanks (`TransactionList.render_aligns_cells`),
also where the blanks removed at the end of a line reach into its last cells. The argument is one
induction over the cells of a row (`Table.cut_trimEnd_layout`).
-/

set_option autoImplicit false

namespace ZfsReplication

namespace Text

variable {p : Char → Bool}

theorem trimEndBy_eq_rdropWhile (cs : List Char) : trimEndBy p cs = cs.rdropWhile p := rfl

theorem trimEndBy_eq_nil_iff {cs : List Char} : trimEndBy p cs = [] ↔ ∀ c ∈ cs, p c := by
  rw [trimEndBy_eq_rdropWhile, List.rdropWhile_eq_nil_iff]

/-- Trimming the end of two texts one after the other reaches into the first only when the second
is all trimmed away. -/
theorem trimEndBy_append (xs ys : List Char) :
    trimEndBy p (xs ++ ys) = if trimEndBy p ys = [] then trimEndBy p xs else xs ++ trimEndBy p ys := by
  unfold trimEndBy
  rw [List.reverse_append, List.dropWhile_append]
  by_cases gone : (ys.reverse.dropWhile p) = [] <;> simp [gone]

theorem trimEndBy_append_of_all {xs ys : List Char} (trimmed : ∀ c ∈ ys, p c) :
    trimEndBy p (xs ++ ys) = trimEndBy p xs := by
  rw [trimEndBy_append, if_pos (trimEndBy_eq_nil_iff.2 trimmed)]

@[simp] theorem trimEndBy_trimEndBy (cs : List Char) :
    trimEndBy p (trimEndBy p cs) = trimEndBy p cs :=
  List.rdropWhile_idempotent _ _

theorem trimEndBy_begins (cs : List Char) : trimEndBy p cs <+: cs := List.rdropWhile_prefix _ _

end Text

namespace Table

open Text

/-! ## Laying out one row -/

/-- A cell padded with spaces to `w` characters. -/
def padTo (w : Nat) (cell : List Char) : List Char := cell ++ List.replicate (w - cell.length) ' '

/-- A row of cells, each padded to the width of its column, two spaces apart. -/
def layout : List (Nat × List Char) → List Char
  | [] => []
  | [(w, cell)] => padTo w cell
  | (w, cell) :: rest => padTo w cell ++ ' ' :: ' ' :: layout rest

/-- A line cut into columns of the given widths, each but the last followed by the two characters
of the gap, the last running to the end of the line. -/
def cut : List Nat → List Char → List (List Char)
  | [], _ => []
  | [_], line => [line]
  | w :: ws, line => line.take (w + 2) :: cut ws (line.drop (w + 2))

theorem length_padTo {w : Nat} {cell : List Char} (fits : cell.length ≤ w) :
    (padTo w cell).length = w := by
  simp [padTo]
  omega

theorem trimEndBy_padTo (w : Nat) (cell : List Char) :
    trimEndBy isBlank (padTo w cell) = trimEndBy isBlank cell :=
  trimEndBy_append_of_all fun c member => by simp [List.eq_of_mem_replicate member, isBlank]

theorem trimEndBy_padded (w : Nat) (cell : List Char) :
    trimEndBy isBlank (padTo w cell ++ [' ', ' ']) = trimEndBy isBlank cell := by
  rw [trimEndBy_append_of_all (by simp [isBlank]), trimEndBy_padTo]

theorem layout_eq_intercalate (row : List (Nat × List Char)) :
    layout row = [' ', ' '].intercalate (row.map fun x => padTo x.1 x.2) := by
  induction row with
  | nil => rfl
  | cons x rest ih =>
    cases rest with
    | nil => simp [layout]
    | cons y more =>
      simp only [layout, ih, List.map_cons]
      rw [List.intercalate_cons_cons]
      simp

theorem cut_nil (ws : List Nat) : cut ws [] = List.replicate ws.length [] := by
  induction ws with
  | nil => rfl
  | cons w rest ih =>
    cases rest with
    | nil => rfl
    | cons w' more => simp [cut, ih, List.replicate_succ]

/-- A character of a laid-out row is a space or a character of one of its cells. -/
theorem mem_layout {row : List (Nat × List Char)} {c : Char} (member : c ∈ layout row) :
    c = ' ' ∨ ∃ x ∈ row, c ∈ x.2 := by
  induction row with
  | nil => cases member
  | cons x rest ih =>
    have inFirst : c ∈ padTo x.1 x.2 → c = ' ' ∨ ∃ y ∈ x :: rest, c ∈ y.2 := by
      intro inPadded
      rcases List.mem_append.1 inPadded with inCell | inSpaces
      · exact .inr ⟨x, List.mem_cons_self, inCell⟩
      · exact .inl (List.eq_of_mem_replicate inSpaces)
    cases rest with
    | nil => exact inFirst member
    | cons y more =>
      simp only [layout, List.mem_append, List.mem_cons] at member
      rcases member with inPadded | gap | gap | later
      · exact inFirst inPadded
      · exact .inl gap
      · exact .inl gap
      · rcases ih later with space | ⟨z, inRest, inCell⟩
        · exact .inl space
        · exact .inr ⟨z, List.mem_cons_of_mem _ inRest, inCell⟩

/-- Every character of a cell occurs in its row's layout. -/
theorem mem_layout_of_mem {row : List (Nat × List Char)} {x : Nat × List Char} (member : x ∈ row)
    {c : Char} (inCell : c ∈ x.2) : c ∈ layout row := by
  induction row with
  | nil => cases member
  | cons y rest ih =>
    rcases List.mem_cons.1 member with rfl | later
    · cases rest with
      | nil => simp [layout, padTo, inCell]
      | cons z more => simp [layout, padTo, inCell]
    · cases rest with
      | nil => cases later
      | cons z more =>
        simp only [layout, List.mem_append, List.mem_cons]
        exact .inr (.inr (.inr (ih later)))

/-- Cutting a laid-out row with its trailing blanks removed at the column widths gives back every
cell up to its trailing blanks: the blanks removed at the end reach into a cell only when
everything after it is blank. -/
theorem cut_trimEnd_layout (row : List (Nat × List Char)) (fits : ∀ x ∈ row, x.2.length ≤ x.1) :
    (cut (row.map (·.1)) (trimEndBy isBlank (layout row))).map (trimEndBy isBlank) =
      row.map fun x => trimEndBy isBlank x.2 := by
  induction row with
  | nil => rfl
  | cons x rest ih =>
    obtain ⟨w, cell⟩ := x
    have fitsCell : cell.length ≤ w := fits (w, cell) List.mem_cons_self
    cases rest with
    | nil => simp [layout, cut, trimEndBy_padTo]
    | cons y more =>
      have fitsRest : ∀ x ∈ y :: more, x.2.length ≤ x.1 := fun x member =>
        fits x (List.mem_cons_of_mem _ member)
      have whole : layout ((w, cell) :: y :: more) =
          (padTo w cell ++ [' ', ' ']) ++ layout (y :: more) := by
        simp [layout]
      have gap : (padTo w cell ++ [' ', ' ']).length = w + 2 := by
        simp [length_padTo fitsCell]
      rw [whole, trimEndBy_append]
      split
      · next blank =>
        -- everything after the first cell is blank: the line ends within the first cell
        have allBlank := trimEndBy_eq_nil_iff.1 blank
        have short : (trimEndBy isBlank cell).length ≤ w :=
          (trimEndBy_begins cell).length_le.trans fitsCell
        have taken : (trimEndBy isBlank cell).take (w + 2) = trimEndBy isBlank cell :=
          List.take_of_length_le (by omega)
        have dropped : (trimEndBy isBlank cell).drop (w + 2) = [] :=
          List.drop_of_length_le (by omega)
        rw [trimEndBy_padded]
        simp only [List.map_cons, cut, taken, dropped, cut_nil, trimEndBy_trimEndBy]
        congr 1
        -- and so is every later cell
        have cleared : ∀ x ∈ y :: more, trimEndBy isBlank x.2 = [] := fun x inRest =>
          trimEndBy_eq_nil_iff.2 fun c inCell => allBlank c (mem_layout_of_mem inRest inCell)
        have rest : trimEndBy isBlank y.2 :: more.map (fun x => trimEndBy isBlank x.2) =
            (y :: more).map fun _ => ([] : List Char) :=
          List.map_congr_left cleared
        rw [rest, List.map_replicate]
        simp [trimEndBy, List.replicate_succ]
      · next kept =>
        -- something after the first cell stays: the first column is whole
        have taken : (padTo w cell ++ [' ', ' '] ++ trimEndBy isBlank (layout (y :: more))).take
            (w + 2) = padTo w cell ++ [' ', ' '] := by
          rw [← gap, List.take_left]
        have dropped : (padTo w cell ++ [' ', ' '] ++ trimEndBy isBlank (layout (y :: more))).drop
            (w + 2) = trimEndBy isBlank (layout (y :: more)) := by
          rw [← gap, List.drop_left]
        have later := ih fitsRest
        simp only [List.map_cons] at later
        simp only [List.map_cons, cut, taken, dropped, later, trimEndBy_padded]

/-! ## Columns at fixed offsets -/

/-- The widest cell of column `j`, in characters. -/
def width (cells : List (List String)) (j : Nat) : Nat :=
  (cells.map fun row => (row.getD j "").length).foldr max 0

/-- Where column `j` starts: after each earlier column, as wide as its widest cell, and the two
spaces that follow it. -/
def start (cells : List (List String)) (j : Nat) : Nat :=
  ((List.range j).map fun i => width cells i + 2).sum

/-- Column `j` of a line of a table of `n` columns: from its start to the start of the next column,
and to the end of the line for the last column. -/
def piece (cells : List (List String)) (n j : Nat) (line : List Char) : List Char :=
  if j + 1 < n then (line.drop (start cells j)).take (width cells j + 2)
  else line.drop (start cells j)

theorem le_width {cells : List (List String)} {row : List String} (member : row ∈ cells)
    (j : Nat) : (row.getD j "").length ≤ width cells j := by
  induction cells with
  | nil => cases member
  | cons first rest ih =>
    unfold width
    rw [List.map_cons, List.foldr_cons]
    rcases List.mem_cons.1 member with rfl | later
    · exact le_max_left _ _
    · exact (ih later).trans (le_max_right _ _)

/-- The pieces that `cut` makes are the columns at their offsets. -/
theorem getElem?_cut (ws : List Nat) (line : List Char) {j : Nat} (inside : j < ws.length) :
    (cut ws line)[j]? =
      some (if j + 1 < ws.length then
          (line.drop ((ws.take j).map (· + 2)).sum).take (ws[j] + 2)
        else line.drop ((ws.take j).map (· + 2)).sum) := by
  induction ws generalizing line j with
  | nil => cases inside
  | cons w rest ih =>
    cases rest with
    | nil =>
      obtain rfl : j = 0 := by simpa using inside
      simp [cut]
    | cons w' more =>
      cases j with
      | zero => simp [cut]
      | succ i =>
        have later := ih (line.drop (w + 2)) (j := i) (by simpa using inside)
        simp only [cut, List.getElem?_cons_succ, later, List.drop_drop, List.take_succ_cons,
          List.map_cons, List.sum_cons, List.length_cons, List.getElem_cons_succ]
        simp

end Table

/-! ## The table of a list -/

namespace TransactionList

open Text Table

/-- The cells of a list's table: the names of its columns, then for every transaction the rendered
value of each column's field, empty where the transaction has none. -/
def cells (l : TransactionList) : List (List String) :=
  (l.columns.map Field.name) :: l.transactions.map fun t =>
    l.columns.map fun f => ((t.details.get? f).map PropertyValue.render).getD ""

theorem foldl_max_eq (rows : List (List String)) (j a : Nat) :
    rows.foldl (fun w row => max w ((row[j]?.map String.length).getD 0)) a =
      max a (width rows j) := by
  induction rows generalizing a with
  | nil => simp [width]
  | cons row rest ih =>
    have cell : (row[j]?.map String.length).getD 0 = (row.getD j "").length := by
      cases found : row[j]? <;> simp [List.getD_eq_getElem?_getD, found]
    rw [List.foldl_cons, ih, cell]
    simp only [width, List.map_cons, List.foldr_cons]
    rw [max_assoc]

theorem toList_padRight (w : Nat) (cell : String) :
    (padRight w cell).toList = padTo w cell.toList := by
  simp [padRight, padTo, String.length_toList]

theorem zip_padRight (row : List String) (widths : List Nat) :
    ((row.zip widths).map (String.toList ∘ fun x => padRight x.2 x.1)) =
      (widths.zip (row.map String.toList)).map fun x => padTo x.1 x.2 := by
  induction row generalizing widths with
  | nil => simp
  | cons cell rest ih =>
    cases widths with
    | nil => simp
    | cons w more => simp [ih, toList_padRight]

/-- The list renders as its cells laid out at the widths of their columns, line by line. -/
theorem render_eq (l : TransactionList) :
    l.render = String.join (l.cells.map fun row =>
      String.ofList (trimEndBy isBlank (layout
        (((List.range l.columns.length).map (width l.cells)).zip (row.map String.toList)))) ++
      "\n") := by
  have widths : (l.columns.zipIdx.map fun x => l.cells.foldl
      (fun w row => max w ((row[x.2]?.map String.length).getD 0)) 0) =
      (List.range l.columns.length).map (width l.cells) := by
    have reindexed : (l.columns.zipIdx.map fun x => l.cells.foldl
        (fun w row => max w ((row[x.2]?.map String.length).getD 0)) 0) =
        (l.columns.zipIdx.map Prod.snd).map (width l.cells) := by
      rw [List.map_map]
      exact List.map_congr_left fun x _ => by simp [foldl_max_eq]
    rw [reindexed, List.zipIdx_map_snd, List.range_eq_range']
  unfold render
  dsimp only
  rw [← cells.eq_1, widths]
  refine congrArg String.join (List.map_congr_left fun row _ => ?_)
  rw [trimEnd, String.toList_intercalate, layout_eq_intercalate, List.map_map]
  rw [zip_padRight]
  rfl

theorem length_cells (l : TransactionList) : l.cells.length = l.size + 1 := by
  simp [cells, size]

theorem length_of_mem_cells {l : TransactionList} {row : List String} (member : row ∈ l.cells) :
    row.length = l.columns.length := by
  simp only [cells, List.mem_cons, List.mem_map] at member
  rcases member with rfl | ⟨t, -, rfl⟩ <;> simp

theorem Field.mem_all (f : Field) : f ∈ Field.all := by
  cases f <;> decide

theorem Field.newline_not_mem_name (f : Field) : '\n' ∉ f.name.toList := by
  cases f <;> decide

theorem TransactionKind.newline_not_mem_name (k : TransactionKind) : '\n' ∉ k.name.toList := by
  cases k <;> decide

/-- A field's value displays without a newline when every value stored in the description does: the
kind displays as its name. -/
theorem Details.newline_not_mem_get? {d : Details}
    (noNewline : ∀ x ∈ d.fields, '\n' ∉ x.2.render.toList) {f : Field} {v : PropertyValue}
    (found : d.get? f = some v) : '\n' ∉ v.render.toList := by
  unfold Details.get? at found
  split at found
  · cases found
    exact TransactionKind.newline_not_mem_name d.kind
  · obtain ⟨front, back, whole, -⟩ := List.lookup_eq_some_iff.1 found
    exact noNewline (f, v) (by simp [whole])

/-- No cell holds a newline when no value stored in a transaction's description displays with
one. -/
theorem newline_not_mem_cells {l : TransactionList}
    (noNewline : ∀ t ∈ l.transactions, ∀ x ∈ t.details.fields, '\n' ∉ x.2.render.toList)
    {row : List String} (member : row ∈ l.cells) {cell : String} (inRow : cell ∈ row) :
    '\n' ∉ cell.toList := by
  simp only [cells, List.mem_cons, List.mem_map] at member
  rcases member with rfl | ⟨t, listed, rfl⟩
  · obtain ⟨f, -, rfl⟩ := List.mem_map.1 inRow
    exact Field.newline_not_mem_name f
  · obtain ⟨f, -, rfl⟩ := List.mem_map.1 inRow
    cases found : t.details.get? f with
    | none => simp
    | some v => simpa using Details.newline_not_mem_get? (noNewline t listed) found

/-- The columns are the fields some transaction has. -/
theorem mem_columns (l : TransactionList) (f : Field) :
    f ∈ l.columns ↔ ∃ t ∈ l.transactions, f ∈ t.details.keys := by
  simp [columns, Field.mem_all]

/-- The columns come in column order. -/
theorem columns_sorted (l : TransactionList) : l.columns.Pairwise fun f g => f.rank < g.rank := by
  have ordered : Field.all.Pairwise fun f g => f.rank < g.rank := by decide
  exact ordered.sublist List.filter_sublist

/-- Every transaction has a kind, so the kind comes first in the table of a list that has any. -/
theorem columns_head? {l : TransactionList} (nonempty : l.transactions ≠ []) :
    l.columns.head? = some .kind := by
  obtain ⟨t, listed⟩ := List.exists_mem_of_ne_nil _ nonempty
  simpa [columns, Field.all] using ⟨t, listed, by simp [Details.keys]⟩

/-- The offsets of the columns of a list's table are the sums of the widths before them. -/
theorem start_eq (l : TransactionList) {j : Nat} (column : j < l.columns.length) :
    start l.cells j =
      ((((List.range l.columns.length).map (width l.cells)).take j).map (· + 2)).sum := by
  rw [← List.map_take, List.take_range, Nat.min_eq_left column.le, List.map_map]
  rfl

/-- A list's table, with at least one column per row: every cell fits the width of its column. -/
theorem fits_zip {l : TransactionList} {row : List String} (member : row ∈ l.cells) :
    ∀ x ∈ ((List.range l.columns.length).map (width l.cells)).zip (row.map String.toList),
      x.2.length ≤ x.1 := by
  intro x inZip
  obtain ⟨i, inside, rfl⟩ := List.getElem_of_mem inZip
  simp only [List.getElem_zip, List.getElem_map, List.getElem_range, String.length_toList]
  have cell := le_width member i
  rwa [List.getD_eq_getElem _ _ (by simp at inside; omega)] at cell

/-- What the table of a list shows. Its columns are the fields that some transaction has, in column
order, the kind first. It has a line per row of cells, each ended by a newline and holding no
other: the header, then a line per transaction. Cutting any line at the offsets of the columns
(`Table.start`) and removing the trailing blanks of each piece gives that row's cell of the
column with its own trailing blanks removed. -/
structure RendersTable (l : TransactionList) : Prop where
  columns : ∀ f, f ∈ l.columns ↔ ∃ t ∈ l.transactions, f ∈ t.details.keys
  ordered : l.columns.Pairwise fun f g => f.rank < g.rank
  kindFirst : l.transactions ≠ [] → l.columns.head? = some .kind
  aligned : ∃ lines : List String, l.render = String.join (lines.map (· ++ "\n")) ∧
    lines.length = l.size + 1 ∧ (∀ line ∈ lines, '\n' ∉ line.toList) ∧
    ∀ k < lines.length, ∀ j < l.columns.length,
      trimEndBy isBlank (piece l.cells l.columns.length j (lines.getD k "").toList) =
        trimEndBy isBlank ((l.cells.getD k []).getD j "").toList

/-- Every list whose stored values display without newlines renders as `RendersTable` says. -/
theorem render_aligns_cells (l : TransactionList)
    (noNewline : ∀ t ∈ l.transactions, ∀ x ∈ t.details.fields, '\n' ∉ x.2.render.toList) :
    l.RendersTable := by
  refine ⟨mem_columns l, columns_sorted l, columns_head?, ?_⟩
  let widths := (List.range l.columns.length).map (width l.cells)
  let lineOf := fun row : List String =>
    String.ofList (trimEndBy isBlank (layout (widths.zip (row.map String.toList))))
  refine ⟨l.cells.map lineOf, by rw [render_eq, List.map_map]; rfl, by simp [length_cells], ?_, ?_⟩
  · -- a line holds spaces and characters of its cells
    intro line member newline
    obtain ⟨row, inCells, rfl⟩ := List.mem_map.1 member
    have inLayout := (trimEndBy_begins _).subset (by simpa [lineOf] using newline)
    rcases mem_layout inLayout with space | ⟨x, inZip, inCell⟩
    · cases space
    · obtain ⟨cell, inRow, same⟩ := List.mem_map.1 (List.of_mem_zip inZip).2
      rw [← same] at inCell
      exact newline_not_mem_cells noNewline inCells inRow inCell
  · intro k inside j column
    have inCells : k < l.cells.length := by simpa using inside
    have member : l.cells[k] ∈ l.cells := List.getElem_mem inCells
    have lengthRow := length_of_mem_cells member
    let line := trimEndBy isBlank (layout (widths.zip (l.cells[k].map String.toList)))
    -- the piece of column `j` is the `j`-th piece that `cut` makes
    have cutAt : (cut widths line)[j]? = some (piece l.cells l.columns.length j line) := by
      rw [getElem?_cut widths line (by simpa [widths] using column), piece, start_eq l column]
      simp [widths]
    have firsts : (widths.zip (l.cells[k].map String.toList)).map (·.1) = widths :=
      List.map_fst_zip (by simp [widths, lengthRow])
    have laid : ((cut widths line).map (trimEndBy isBlank))[j]? =
        ((widths.zip (l.cells[k].map String.toList)).map fun x => trimEndBy isBlank x.2)[j]? := by
      have whole := cut_trimEnd_layout _ (fits_zip member)
      rw [firsts] at whole
      rw [whole]
    have inZip : j < (widths.zip (l.cells[k].map String.toList)).length := by
      simp [widths, lengthRow, column]
    rw [List.getElem?_map, List.getElem?_map, cutAt, List.getElem?_eq_getElem inZip] at laid
    have cell := Option.some.inj laid
    rw [List.getElem_zip] at cell
    simp only [List.getElem_map] at cell
    rw [List.getD_eq_getElem _ _ inside, List.getElem_map, List.getD_eq_getElem _ _ inCells,
      List.getD_eq_getElem _ _ (by omega)]
    show trimEndBy isBlank (piece l.cells l.columns.length j (String.ofList line).toList) = _
    rw [String.toList_ofList]
    exact cell

/-- A removal and a snapshot, as a plan lists them: the kind, the snapshot name of the removal and
the amount written of the snapshot are columns. -/
def removalAndSnapshot : TransactionList :=
  ({} : TransactionList).extend
    [.new ((Details.ofKind .cleanupSnapshot).set .snapshotName (.text "tank@1"))
        (.single ["zfs", "destroy", "tank@1"]),
      .new ((Details.ofKind .snapshot).set .written (.integer 2048))
        (.single ["zfs", "snapshot", "tank@2"])]

theorem render_aligns_cells_sample :
    (∀ t ∈ removalAndSnapshot.transactions, ∀ x ∈ t.details.fields, '\n' ∉ x.2.render.toList) ∧
      removalAndSnapshot.RendersTable :=
  ⟨by decide, render_aligns_cells removalAndSnapshot (by decide)⟩

end TransactionList

end ZfsReplication
