/-
Module: Abacus.Proofs.TableLayout
Purpose: All lines of a table have the same width, and its rows stand in its columns.
Main exports: Border.Thin, cells_ruled, Rectangular, roomy_widths, Beside, Shows, beside_rowLines,
  shows_columnsOf, beside_of_rectangular, shows_of_rectangular, even_lines
-/
import Abacus.Display.Table
import Abacus.Proofs.Fitting

namespace Abacus.Display

open Text

/-!
Every line of a table is made of one part for each column, and each part takes up the width of its
column.  So it does not matter what the cells hold, nor how many lines they have.  That the cells
are shown whole is due to the widths, which are those of the widest lines.
-/

/-! ### Ruled lines -/

/-- Each rule of the border takes one cell and no line of its own. -/
def Border.Thin (border : Border) : Prop :=
  ∀ c ∈ [border.left, border.crossing, border.right, border.fill], cellWidth c = 1 ∧ c ≠ '\n'

instance (border : Border) : Decidable border.Thin :=
  List.decidableBAll (fun c => cellWidth c = 1 ∧ c ≠ '\n') _

namespace Table

/-- Between the ends of a line stand the columns, each with a space on either side, and a rule
before each but the first. -/
theorem cells_intercalate {crossing : Char} (thin : cellWidth crossing = 1) {width : Nat}
    {widths : List Nat} {part : List Char} {parts : List (List Char)}
    (fills : List.Forall₂ (fun width part => cells part = width + 2) (width :: widths)
      (part :: parts)) :
    cells ([crossing].intercalate (part :: parts)) + 2 = Table.width (width :: widths) := by
  induction widths generalizing width part parts with
  | nil =>
      cases fills with
      | cons first others =>
          cases others
          rw [List.intercalate_singleton, first]
          simp [Table.width]
  | cons next widths ih =>
      cases fills with
      | cons first others =>
          obtain ⟨following, rest, rfl⟩ : ∃ following rest, parts = following :: rest := by
            cases others
            exact ⟨_, _, rfl⟩
          have later := ih others
          have step : Table.width (width :: next :: widths) =
            width + 3 + Table.width (next :: widths) := rfl
          rw [List.intercalate_cons_cons, cells_append, cells_append, cells_cons, cells_nil, thin,
            first, step, ← later]
          omega

/-- A ruled line whose parts fill the columns is as wide as the table. -/
theorem cells_ruled {border : Border} (thin : border.Thin) {widths : List Nat}
    (columns : widths ≠ []) {parts : List (List Char)}
    (fills : List.Forall₂ (fun width part => cells part = width + 2) widths parts) :
    cells (ruled border parts) = Table.width widths := by
  cases fills with
  | nil => exact absurd rfl columns
  | @cons width part widths parts first others =>
      have left := (thin border.left (by simp)).1
      have crossing := (thin border.crossing (by simp)).1
      have right := (thin border.right (by simp)).1
      have inner := cells_intercalate crossing (.cons first others)
      rw [ruled, List.cons_append, cells_cons, cells_append, cells_cons, cells_nil, left, right]
      omega

theorem noNewline_ruled {border : Border} (thin : border.Thin) {parts : List (List Char)}
    (inside : ∀ part ∈ parts, '\n' ∉ part) : '\n' ∉ ruled border parts := by
  intro mem
  rw [ruled, List.cons_append, List.mem_cons, List.mem_append, List.mem_singleton] at mem
  rcases mem with left | between | right
  · exact (thin border.left (by simp)).2 left.symm
  · rcases mem_intercalate between with crossing | ⟨part, isPart, inPart⟩
    · exact (thin border.crossing (by simp)).2 (List.mem_singleton.1 crossing).symm
    · exact inside part isPart inPart
  · exact (thin border.right (by simp)).2 right.symm

theorem cells_rule {border : Border} (thin : border.Thin) {widths : List Nat}
    (columns : widths ≠ []) : cells (rule border widths) = Table.width widths := by
  have fill := (thin border.fill (by simp)).1
  apply cells_ruled thin columns
  rw [List.forall₂_map_right_iff, List.forall₂_same]
  intro width _
  rw [cells_replicate, fill, Nat.mul_one]

theorem noNewline_rule {border : Border} (thin : border.Thin) (widths : List Nat) :
    '\n' ∉ rule border widths := by
  apply noNewline_ruled thin
  intro part isPart mem
  obtain ⟨width, _, rfl⟩ := List.mem_map.1 isPart
  exact (thin border.fill (by simp)).2 (List.eq_of_mem_replicate mem).symm

theorem cells_textLine {border : Border} (thin : border.Thin) {widths : List Nat}
    (columns : widths ≠ []) {parts : List (List Char)}
    (fills : List.Forall₂ (fun width part => cells part = width) widths parts) :
    cells (textLine border parts) = Table.width widths := by
  apply cells_ruled thin columns
  rw [List.forall₂_map_right_iff]
  apply fills.imp
  intro width part filled
  rw [List.cons_append, cells_cons, cells_append, filled, cells_cons, cells_nil, cellWidth_space]
  omega

theorem noNewline_textLine {border : Border} (thin : border.Thin) {parts : List (List Char)}
    (inside : ∀ part ∈ parts, '\n' ∉ part) : '\n' ∉ textLine border parts := by
  apply noNewline_ruled thin
  intro spaced isSpaced mem
  obtain ⟨part, isPart, rfl⟩ := List.mem_map.1 isSpaced
  have noNewline := inside part isPart
  simp [noNewline] at mem

theorem cells_titleLine {width : Nat} {title : List Char} (room : cells title ≤ width) :
    cells (titleLine width title) = width := by
  rw [titleLine, cells_append, cells_append, cells_spaces, cells_spaces]
  omega

theorem noNewline_titleLine {width : Nat} {title : List Char} (oneLine : '\n' ∉ title) :
    '\n' ∉ titleLine width title := by
  simp [titleLine, spaces, oneLine]

/-! ### Widths -/

/-- Each text of a row has room in its column. -/
def Roomy (row : List (List Char)) (widths : List Nat) : Prop :=
  List.Forall₂ (fun text width => contentWidth text ≤ width) row widths

/-- What fits the columns fits wider ones. -/
theorem forall₂_widened {α : Type} {fits : α → Nat → Prop} {items : List α}
    {widths wider : List Nat} (fit : List.Forall₂ fits items widths)
    (widened : List.Forall₂ (· ≤ ·) widths wider)
    (mono : ∀ a width wider, fits a width → width ≤ wider → fits a wider) :
    List.Forall₂ fits items wider := by
  induction fit generalizing wider with
  | nil =>
      cases widened
      exact .nil
  | cons first others ih =>
      cases widened with
      | cons more rest => exact .cons (mono _ _ _ first more) (ih rest)

/-- A row makes the columns as wide as it needs them, and none of them narrower. -/
theorem roomy_widened {row : List (List Char)} {widths : List Nat}
    (same : row.length = widths.length) :
    let wider := List.zipWith (fun text width => max (contentWidth text) width) row widths
    Roomy row wider ∧ List.Forall₂ (· ≤ ·) widths wider := by
  induction row generalizing widths with
  | nil =>
      obtain rfl := List.eq_nil_of_length_eq_zero same.symm
      exact ⟨.nil, .nil⟩
  | cons text row ih =>
      cases widths with
      | nil => cases same
      | cons width widths =>
          obtain ⟨roomy, widened⟩ := ih (Nat.succ.inj same)
          exact ⟨.cons (Nat.le_max_left _ _) roomy, .cons (Nat.le_max_right _ _) widened⟩

/-- There are columns, and every row has one cell for each of them. -/
structure Rectangular (table : Table) : Prop where
  columns : table.columns ≠ []
  rows : ∀ row ∈ table.rows, row.length = table.columns.length

/-- No column is narrower than it has to be, and every row has room. -/
theorem roomy_widths {table : Table} (rectangular : table.Rectangular) :
    List.Forall₂ (· ≤ ·) (table.columns.map (·.minWidth)) table.widths ∧
      ∀ row ∈ table.columns.map (·.heading) :: table.rows, Roomy row table.widths := by
  have lengths : ∀ row ∈ table.columns.map (·.heading) :: table.rows,
      row.length = (table.columns.map (·.minWidth)).length := by
    intro row mem
    rw [List.length_map]
    rcases List.mem_cons.1 mem with rfl | inRows
    · exact List.length_map _
    · exact rectangular.rows row inRows
  rw [widths]
  generalize table.columns.map (·.heading) :: table.rows = rows at lengths ⊢
  -- Row by row from the last one: what has room already keeps it.
  induction rows with
  | nil => exact ⟨List.forall₂_refl _, fun row mem => by cases mem⟩
  | cons row rows ih =>
      obtain ⟨here, others⟩ := List.forall_mem_cons.1 lengths
      obtain ⟨least, roomy⟩ := ih others
      obtain ⟨room, widened⟩ := roomy_widened (here.trans least.length_eq)
      refine ⟨forall₂_widened least widened (fun _ _ _ => Nat.le_trans), ?_⟩
      intro found mem
      rcases List.mem_cons.1 mem with rfl | later
      · exact room
      · exact forall₂_widened (roomy found later) widened (fun _ _ _ => Nat.le_trans)

/-! ### Rows -/

/-- The lines put some columns side by side.  Each column has as many lines, and all of its lines
have its width. -/
structure Beside (border : Border) (widths : List Nat) (columns : List (List (List Char)))
    (lines : List (List Char)) : Prop where
  joined : lines =
    (List.range lines.length).map fun i => textLine border (columns.map (·.getD i []))
  heights : ∀ column ∈ columns, column.length = lines.length
  widths : List.Forall₂
    (fun width column => ∀ line ∈ column, cells line = width ∧ '\n' ∉ line) widths columns

/-- The column shows a text line by line, and is blank below it. -/
def Shows (justify : Justify) (width : Nat) (text : List Char) (column : List (List Char)) :
    Prop :=
  ∃ shown below, List.Forall₂ (ShowsLine justify) (splitAtNewlines text) shown ∧
    column = shown ++ List.replicate below (spaces width)

/-- A text as a column of a given height. -/
def setColumn (tabSize : Nat) (justify : Justify) (width height : Nat) (text : List Char) :
    List (List Char) :=
  (List.range height).map fun i => (fitCell tabSize justify width text).getD i (spaces width)

section Columns

variable {tabSize width height : Nat} {justify : Justify} {text : List Char}

theorem map_getD_range {α : Type} {items : List α} (fallback : α)
    (fits : items.length ≤ height) :
    (List.range height).map (fun i => items.getD i fallback) =
      items ++ List.replicate (height - items.length) fallback := by
  apply List.ext_getElem?
  intro i
  by_cases early : i < items.length
  · have inRange : i < height := Nat.lt_of_lt_of_le early fits
    simp [early, inRange, List.getElem?_append_left early]
  · by_cases inRange : i < height
    · have below : i - items.length < height - items.length := by omega
      simp [early, inRange, below, List.getElem?_append_right, Nat.le_of_not_lt early]
    · have beyond : ¬ i - items.length < height - items.length := by omega
      simp [inRange, beyond, List.getElem?_append_right, Nat.le_of_not_lt early]

theorem cells_of_mem_setColumn {line : List Char}
    (mem : line ∈ setColumn tabSize justify width height text) : cells line = width := by
  obtain ⟨i, _, rfl⟩ := List.mem_map.1 mem
  rw [List.getD_eq_getElem?_getD]
  cases found : (fitCell tabSize justify width text)[i]? with
  | none => exact cells_spaces width
  | some line => exact cells_of_mem_fitCell (List.mem_of_getElem? found)

theorem noNewline_of_mem_setColumn {line : List Char}
    (mem : line ∈ setColumn tabSize justify width height text) : '\n' ∉ line := by
  obtain ⟨i, _, rfl⟩ := List.mem_map.1 mem
  rw [List.getD_eq_getElem?_getD]
  cases found : (fitCell tabSize justify width text)[i]? with
  | none =>
      intro space
      exact absurd (List.eq_of_mem_replicate space) (by decide)
  | some line => exact noNewline_of_mem_fitCell (List.mem_of_getElem? found)

/-- A column that is wide and high enough shows all of its text. -/
theorem shows_setColumn (lined : Lined text) (wide : contentWidth text ≤ width)
    (high : (fitCell tabSize justify width text).length ≤ height) :
    Shows justify width text (setColumn tabSize justify width height text) := by
  refine ⟨_, _, ?_, map_getD_range (spaces width) high⟩
  rw [fitCell_of_room tabSize justify lined wide, List.forall₂_map_right_iff, List.forall₂_same]
  intro line isLine
  exact showsLine_fit justify (Nat.le_trans (cells_le_contentWidth lined isLine) wide)

end Columns

section Rows

variable (tabSize : Nat) (border : Border)

theorem getD_setColumn {height i : Nat} (inRange : i < height) (justify : Justify) (width : Nat)
    (text : List Char) :
    (setColumn tabSize justify width height text).getD i [] =
      (fitCell tabSize justify width text).getD i (spaces width) := by
  rw [setColumn, List.getD_eq_getElem?_getD, List.getElem?_map, List.getElem?_range inRange]
  rfl

/-- A text with the column that it stands in. -/
abbrev Cell := (Justify × Nat) × List Char

/-- The lines of a cell that are not left blank. -/
def setCell (cell : Cell) : List (List Char) :=
  fitCell tabSize cell.1.1 cell.1.2 cell.2

/-- A row is as high as its highest cell. -/
def rowHeight (row : List Cell) : Nat :=
  row.foldr (fun cell height => max (setCell tabSize cell).length height) 0

theorem length_setCell_le {row : List Cell} {cell : Cell} (mem : cell ∈ row) :
    (setCell tabSize cell).length ≤ rowHeight tabSize row := by
  induction row with
  | nil => cases mem
  | cons first row ih =>
      rw [rowHeight, List.foldr_cons, ← rowHeight]
      rcases List.mem_cons.1 mem with rfl | later
      · exact Nat.le_max_left _ _
      · exact Nat.le_trans (ih later) (Nat.le_max_right _ _)

/-- The columns of a row. -/
def columnsOf (row : List Cell) : List (List (List Char)) :=
  row.map fun cell => setColumn tabSize cell.1.1 cell.1.2 (rowHeight tabSize row) cell.2

theorem rowLines_eq (columns : List (Justify × Nat)) (row : List (List Char)) :
    rowLines tabSize border columns row =
      (List.range (rowHeight tabSize (columns.zip row))).map fun i =>
        textLine border ((columnsOf tabSize (columns.zip row)).map (·.getD i [])) := by
  have parts : List.zipWith (fun (column : Justify × Nat) text =>
      (column.2, fitCell tabSize column.1 column.2 text)) columns row =
        (columns.zip row).map fun cell => (cell.1.2, setCell tabSize cell) := by
    rw [List.zip, List.map_zipWith]
    rfl
  have height : ((columns.zip row).map fun cell => (cell.1.2, setCell tabSize cell)).foldr
      (fun part height => max part.2.length height) 0 = rowHeight tabSize (columns.zip row) := by
    rw [List.foldr_map]
    rfl
  unfold rowLines
  rw [parts]
  dsimp only
  rw [height]
  apply List.map_congr_left
  intro i inRange
  rw [columnsOf, List.map_map, List.map_map]
  apply congrArg (textLine border)
  apply List.map_congr_left
  intro cell _
  exact (getD_setColumn tabSize (List.mem_range.1 inRange) _ _ _).symm

/-- The lines of a row put its columns side by side. -/
theorem beside_rowLines {columns : List (Justify × Nat)} {row : List (List Char)}
    (same : row.length = columns.length) :
    Beside border (columns.map Prod.snd) (columnsOf tabSize (columns.zip row))
      (rowLines tabSize border columns row) where
  joined := by
    rw [rowLines_eq, List.length_map, List.length_range]
  heights := by
    intro column mem
    obtain ⟨cell, _, rfl⟩ := List.mem_map.1 mem
    rw [rowLines_eq, setColumn, List.length_map, List.length_map, List.length_range]
  widths := by
    have zipped : columns.map Prod.snd = (columns.zip row).map fun cell => cell.1.2 := by
      conv_lhs => rw [← List.map_fst_zip (Nat.le_of_eq same.symm), List.map_map]
      rfl
    rw [zipped, columnsOf, List.forall₂_map_left_iff, List.forall₂_map_right_iff,
      List.forall₂_same]
    intro cell _ line mem
    exact ⟨cells_of_mem_setColumn mem, noNewline_of_mem_setColumn mem⟩

/-- Each column of a row with room shows its text. -/
theorem shows_columnsOf {row : List Cell} (room : ∀ cell ∈ row, contentWidth cell.2 ≤ cell.1.2) :
    List.Forall₂ (fun cell column => Lined cell.2 → Shows cell.1.1 cell.1.2 cell.2 column) row
      (columnsOf tabSize row) := by
  rw [columnsOf, List.forall₂_map_right_iff, List.forall₂_same]
  intro cell mem lined
  exact shows_setColumn lined (room cell mem) (length_setCell_le tabSize mem)

end Rows

/-! ### Tables -/

/-- Columns side by side make lines of one width. -/
theorem Beside.even {border : Border} (thin : border.Thin) {widths : List Nat} (some : widths ≠ [])
    {columns : List (List (List Char))} {lines : List (List Char)}
    (beside : Beside border widths columns lines) {line : List Char} (mem : line ∈ lines) :
    cells line = Table.width widths ∧ '\n' ∉ line := by
  rw [beside.joined] at mem
  obtain ⟨i, inRange, rfl⟩ := List.mem_map.1 mem
  have inside : ∀ column ∈ columns, column.getD i [] ∈ column := by
    intro column isColumn
    have high : i < column.length := by
      rw [beside.heights column isColumn]
      exact List.mem_range.1 inRange
    rw [List.getD_eq_getElem?_getD, List.getElem?_eq_getElem high]
    exact List.getElem_mem high
  have split : List.Forall₂ (fun column width =>
      (∀ line ∈ column, '\n' ∉ line) ∧ ∀ line ∈ column, cells line = width) columns widths := by
    apply beside.widths.flip.imp
    intro column width filled
    exact ⟨fun line mem => (filled line mem).2, fun line mem => (filled line mem).1⟩
  obtain ⟨noNewline, filled⟩ := (List.forall₂_and_left _ _).1 split
  constructor
  · apply cells_textLine thin some
    rw [List.forall₂_map_right_iff]
    -- Each part is a line of its column, so it is as wide as the column.
    have parts := ((List.forall₂_and_left _ _).2 ⟨inside, filled⟩).flip
    apply parts.imp
    intro width column part
    exact part.2 _ part.1
  · apply noNewline_textLine thin
    intro part isPart
    obtain ⟨column, isColumn, rfl⟩ := List.mem_map.1 isPart
    exact noNewline column isColumn _ (inside column isColumn)

section Lines

variable {table : Table} (tabSize : Nat)

/-- The columns of a table, where their text stands and how wide they are. -/
def settings (table : Table) : List (Justify × Nat) :=
  (table.columns.map (·.justify)).zip table.widths

theorem length_widths (rectangular : table.Rectangular) :
    table.widths.length = table.columns.length := by
  rw [← (roomy_widths rectangular).1.length_eq, List.length_map]

theorem map_snd_settings (rectangular : table.Rectangular) :
    table.settings.map Prod.snd = table.widths := by
  apply List.map_snd_zip
  rw [List.length_map, length_widths rectangular]

/-- The lines of a heading or of a row. -/
theorem beside_of_rectangular (rectangular : table.Rectangular) (border : Border)
    {row : List (List Char)} (same : row.length = table.columns.length) :
    Beside border table.widths (columnsOf tabSize (table.settings.zip row))
      (rowLines tabSize border table.settings row) := by
  have lengths : row.length = table.settings.length := by
    rw [settings, List.length_zip, List.length_map, length_widths rectangular, Nat.min_self, same]
  have beside := beside_rowLines tabSize border lengths
  rwa [map_snd_settings rectangular] at beside

/-- A column of a heading or of a row shows the text of its cell. -/
theorem shows_of_rectangular (rectangular : table.Rectangular) {row : List (List Char)}
    (mem : row ∈ table.columns.map (·.heading) :: table.rows) :
    List.Forall₂ (fun cell column => Lined cell.2 → Shows cell.1.1 cell.1.2 cell.2 column)
      (table.settings.zip row) (columnsOf tabSize (table.settings.zip row)) := by
  apply shows_columnsOf
  intro cell isCell
  obtain ⟨_, roomy⟩ := List.forall₂_iff_zip.1 ((roomy_widths rectangular).2 row mem)
  have isPair : (cell.2, cell.1.2) ∈ row.zip table.widths := by
    obtain ⟨i, inRange, rfl⟩ := List.mem_iff_getElem.1 isCell
    simp only [settings, List.getElem_zip, List.length_zip] at inRange ⊢
    refine List.mem_iff_getElem.2 ⟨i, ?_, List.getElem_zip⟩
    rw [List.length_zip]
    omega
  exact roomy isPair

/-- **All lines of a table are equally wide,** whatever its cells hold, if only its title is not
wider than the table. -/
theorem even_lines (rectangular : table.Rectangular)
    (room : cells table.title ≤ Table.width table.widths) (oneLine : '\n' ∉ table.title)
    {line : List Char} (mem : line ∈ table.lines tabSize) :
    cells line = Table.width table.widths ∧ '\n' ∉ line := by
  have some : table.widths ≠ [] := by
    rw [← List.length_pos_iff, length_widths rectangular, List.length_pos_iff]
    exact rectangular.columns
  have row {border : Border} (thin : border.Thin) {row : List (List Char)}
      (same : row.length = table.columns.length)
      (mem : line ∈ rowLines tabSize border table.settings row) :
      cells line = Table.width table.widths ∧ '\n' ∉ line :=
    (beside_of_rectangular tabSize rectangular border same).even thin some mem
  have rule {border : Border} (thin : border.Thin) (same : line = rule border table.widths) :
      cells line = Table.width table.widths ∧ '\n' ∉ line := by
    rw [same]
    exact ⟨cells_rule thin some, noNewline_rule thin _⟩
  simp only [lines, List.cons_append, List.mem_cons, List.mem_append, List.not_mem_nil, or_false]
    at mem
  rcases mem with title | top | ((heading | middle | body) | bottom)
  · rw [title]
    exact ⟨cells_titleLine room, noNewline_titleLine oneLine⟩
  · exact rule (by decide +kernel) top
  · exact row (by decide +kernel) (List.length_map _) heading
  · exact rule (by decide +kernel) middle
  · obtain ⟨cells, isRow, inRow⟩ := List.mem_flatMap.1 body
    exact row (by decide +kernel) (rectangular.rows cells isRow) inRow
  · exact rule (by decide +kernel) bottom

end Lines

end Table

end Abacus.Display
