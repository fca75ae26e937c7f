import LaunchDesk.Proofs.Amounts
import LaunchDesk.Proofs.DisplayWidth
import LaunchDesk.Proofs.Negotiation
import LaunchDesk.Rehearsal
import Mathlib.Algebra.Ring.Nat
import Mathlib.Data.List.Forall2
import Mathlib.Data.List.GetD
import Mathlib.Order.Bounds.Basic

/-!
# What a table shows

A table shows all of its items in their order, every cell with all of its lines, and all lines of a
table are equally wide.

## Implementation notes

The table is described by its lines, as they are found by cutting its text at the line ends. A block
is described by the columns alone, so the titles and the items are the same case; the one condition
is that nothing in a block is wider than its column, which is what the width of a column is for.
The amounts in a table are described by what they show, and counts by their usual decimal texts.
-/

namespace LaunchDesk

open Text

namespace Table

variable {α : Type}

/-- The width of a column: the greatest one of a line in its cells or in its title. -/
def IsWidth (items : List α) (col : Column α) (w : Nat) : Prop :=
  IsGreatest {n | ∃ cell ∈ col.title :: items.map col.cell, ∃ line ∈ cellLines cell,
    lineWidth line = n} w

/-- A block of lines that shows a text in each column. It has as many lines as the text with the
most. In each line a column has a blank, the line of its text there or nothing, blanks up to its
width, and a blank. -/
structure IsBlock (columns : List (Column α)) (ws : List Nat) (text : Column α → String)
    (block : List (List Char)) : Prop where
  height : IsGreatest {n | ∃ col ∈ columns, (cellLines (text col)).length = n} block.length
  line : ∀ (k : Nat) line, block[k]? = some line → ∃ segments : List (List Char),
    segments.length = columns.length ∧ line = '|' :: segments.flatMap (· ++ ['|']) ∧
      ∀ (j : Nat) col w, columns[j]? = some col → ws[j]? = some w →
        let shown := (cellLines (text col)).getD k []
        ∃ n, lineWidth shown + n = w ∧
          segments[j]? = some (' ' :: shown ++ List.replicate n ' ' ++ [' '])

/-- A text is a table of some items. Its lines are a rule, the titles, a rule, and a block with a
rule behind it for each item; a rule has a dash for each place of a segment; and all lines are
equally wide. -/
def Tabulates (columns : List (Column α)) (items : List α) (text : String) : Prop :=
  ∃ ws rule header blocks, List.Forall₂ (IsWidth items) columns ws ∧
    rule = '+' :: ws.flatMap (fun w => List.replicate (w + 2) '-' ++ ['+']) ∧
    IsBlock columns ws Column.title [header] ∧
    List.Forall₂ (fun item => IsBlock columns ws fun col => col.cell item) items blocks ∧
    splitAt '\n' text.toList =
      rule :: header :: rule :: (blocks.flatMap fun block => block ++ [rule]) ∧
    ∀ line ∈ splitAt '\n' text.toList, lineWidth line = 1 + (ws.map (· + 3)).sum

section Greatest

theorem le_greatest {ns : List Nat} {n : Nat} (h : n ∈ ns) : n ≤ greatest ns := by
  induction ns with
  | nil => cases h
  | cons m ns ih =>
      rcases List.mem_cons.mp h with rfl | h
      · exact Nat.le_max_left _ _
      · exact (ih h).trans (Nat.le_max_right _ _)

theorem greatest_mem {ns : List Nat} (h : ns ≠ []) : greatest ns ∈ ns := by
  induction ns with
  | nil => exact absurd rfl h
  | cons m ns ih =>
      change max m (greatest ns) ∈ m :: ns
      rcases eq_or_ne ns [] with rfl | hns
      · simp [greatest]
      · rcases Nat.le_total m (greatest ns) with hle | hle
        · rw [Nat.max_eq_right hle]
          exact List.mem_cons_of_mem _ (ih hns)
        · rw [Nat.max_eq_left hle]
          exact List.mem_cons_self

/-- The greatest of some numbers that are given by a list. -/
theorem isGreatest_greatest {ns : List Nat} (h : ns ≠ []) {p : Nat → Prop}
    (hp : ∀ n, n ∈ ns ↔ p n) : IsGreatest {n | p n} (greatest ns) :=
  ⟨(hp _).mp (greatest_mem h), fun n hn => le_greatest ((hp n).mpr hn)⟩

theorem isWidth_widest (items : List α) (col : Column α) :
    IsWidth items col (widest (col.title :: items.map col.cell)) := by
  refine isGreatest_greatest ?_ fun n => ?_
  · have hne : cellLines col.title ≠ [] := splitAt_ne_nil _ _
    simp [hne]
  · simp only [List.mem_map, List.mem_flatMap]
    constructor
    · rintro ⟨line, ⟨cell, hcell, hline⟩, hn⟩
      exact ⟨cell, hcell, line, hline, hn⟩
    · rintro ⟨cell, hcell, line, hline, hn⟩
      exact ⟨line, ⟨cell, hcell, hline⟩, hn⟩

end Greatest

section Frame

/-- A line with parts between equal signs, which stand apart, is as wide as all of these. -/
theorem lineWidth_framed {c : Char} (h : StandsApart c) (parts : List (List Char)) :
    lineWidth (c :: parts.flatMap (· ++ [c])) =
      1 + (parts.map fun part => lineWidth part + 1).sum := by
  rw [lineWidth_cons h]
  congr 1
  induction parts with
  | nil => rfl
  | cons part parts ih =>
      rw [List.flatMap_cons, List.append_assoc, List.singleton_append, lineWidth_append_cons h, ih,
        List.map_cons, List.sum_cons]

theorem lineWidth_rule (ws : List Nat) : lineWidth (rule ws) = 1 + (ws.map (· + 3)).sum := by
  have hparts : rule ws =
      '+' :: (ws.map fun w => List.replicate (w + 2) '-').flatMap (· ++ ['+']) := by
    rw [List.flatMap_map, rule]
  have hpart : ∀ w, lineWidth (List.replicate (w + 2) '-') + 1 = w + 3 := fun w => by
    rw [lineWidth_replicate (by decide)]
  rw [hparts, lineWidth_framed (by decide), List.map_map]
  exact congrArg (fun widths => 1 + List.sum widths) (List.map_congr_left fun w _ => hpart w)

theorem lineWidth_padded {w : Nat} {line : List Char} (h : lineWidth line ≤ w) :
    lineWidth (padded w line) = w + 2 := by
  have hblank : StandsApart ' ' := by decide
  have hblanks : blanks (w - lineWidth line) ++ [' '] = ' ' :: blanks (w - lineWidth line) := by
    rw [blanks, ← List.replicate_succ', List.replicate_succ]
  rw [padded, List.cons_append, List.cons_append, List.append_assoc, hblanks, lineWidth_cons hblank,
    lineWidth_append_cons hblank, blanks, lineWidth_replicate hblank]
  omega

end Frame

section Segments

variable {ws : List Nat} {lines : List (List Char)}

/-- The segments of a line. -/
def segments (ws : List Nat) (lines : List (List Char)) : List (List Char) :=
  (ws.zip lines).map fun (w, line) => padded w line

theorem rowLine_eq (ws : List Nat) (lines : List (List Char)) :
    rowLine ws lines = '|' :: (segments ws lines).flatMap (· ++ ['|']) := by
  rw [rowLine, segments, List.flatMap_map]

theorem getElem?_segments {j w : Nat} {line : List Char} (hw : ws[j]? = some w)
    (hline : lines[j]? = some line) : (segments ws lines)[j]? = some (padded w line) := by
  have hzip : (ws.zip lines)[j]? = some (w, line) := List.getElem?_zip_eq_some.mpr ⟨hw, hline⟩
  rw [segments, List.getElem?_map, hzip]
  rfl

theorem lineWidth_rowLine (h : List.Forall₂ (fun line w => lineWidth line ≤ w) lines ws) :
    lineWidth (rowLine ws lines) = 1 + (ws.map (· + 3)).sum := by
  rw [rowLine_eq, lineWidth_framed (by decide)]
  congr 2
  induction h with
  | nil => rfl
  | cons hle _ ih =>
      rw [segments, List.zip_cons_cons, List.map_cons, List.map_cons, lineWidth_padded hle,
        List.map_cons]
      exact congrArg (_ :: ·) ih

theorem newline_not_mem_rowLine (h : ∀ line ∈ lines, '\n' ∉ line) :
    '\n' ∉ rowLine ws lines := by
  have hpadded : ∀ w, ∀ line ∈ lines, '\n' ∉ padded w line := by
    intro w line hline
    simp [padded, blanks, h line hline]
  have hsegment : ∀ segment ∈ segments ws lines, '\n' ∉ segment := by
    intro segment hsegment
    obtain ⟨⟨w, line⟩, hzip, rfl⟩ := List.mem_map.mp hsegment
    exact hpadded w line (List.of_mem_zip hzip).2
  rw [rowLine_eq]
  simpa using hsegment

theorem newline_not_mem_rule (ws : List Nat) : '\n' ∉ rule ws := by
  simp [rule, List.mem_replicate]

end Segments

section Blocks

variable {columns : List (Column α)} {ws : List Nat} {text : Column α → String}

/-- Each text has room in its column. -/
def HasRoom (columns : List (Column α)) (ws : List Nat) (text : Column α → String) : Prop :=
  List.Forall₂ (fun col w => ∀ line ∈ cellLines (text col), lineWidth line ≤ w) columns ws

/-- A line of a cell, or nothing below its last one. -/
def lineAt (cell : String) (k : Nat) : List Char :=
  (cellLines cell).getD k []

theorem lineAt_cases (cell : String) (k : Nat) :
    lineAt cell k ∈ cellLines cell ∨ lineAt cell k = [] := by
  by_cases hk : k < (cellLines cell).length
  · rw [lineAt, List.getD_eq_getElem _ _ hk]
    exact Or.inl (List.getElem_mem hk)
  · rw [lineAt, List.getD_eq_default _ _ (Nat.le_of_not_lt hk)]
    exact Or.inr rfl

theorem newline_not_mem_lineAt (cell : String) (k : Nat) : '\n' ∉ lineAt cell k := by
  rcases lineAt_cases cell k with hline | hnil
  · exact not_mem_of_mem_splitAt hline
  · rw [hnil]
    exact List.not_mem_nil

theorem HasRoom.lineAt (h : HasRoom columns ws text) (k : Nat) :
    List.Forall₂ (fun col w => lineWidth (lineAt (text col) k) ≤ w) columns ws := by
  refine h.imp fun col w hroom => ?_
  rcases lineAt_cases (text col) k with hline | hnil
  · exact hroom _ hline
  · rw [hnil]
    exact Nat.zero_le w

theorem block_eq (columns : List (Column α)) (ws : List Nat) (text : Column α → String) :
    block ws (columns.map text) = (List.range (height (columns.map text))).map fun k =>
      rowLine ws (columns.map fun col => Table.lineAt (text col) k) := by
  simp only [block, List.map_map]
  rfl

theorem lineWidth_of_mem_block (h : HasRoom columns ws text) {line : List Char}
    (hline : line ∈ block ws (columns.map text)) :
    lineWidth line = 1 + (ws.map (· + 3)).sum := by
  rw [block_eq] at hline
  obtain ⟨k, -, rfl⟩ := List.mem_map.mp hline
  exact lineWidth_rowLine (List.forall₂_map_left_iff.mpr (h.lineAt k))

theorem newline_not_mem_of_mem_block {line : List Char}
    (hline : line ∈ block ws (columns.map text)) : '\n' ∉ line := by
  rw [block_eq] at hline
  obtain ⟨k, -, rfl⟩ := List.mem_map.mp hline
  refine newline_not_mem_rowLine fun shown hshown => ?_
  obtain ⟨col, -, rfl⟩ := List.mem_map.mp hshown
  exact newline_not_mem_lineAt _ k

theorem isBlock_block (hne : columns ≠ []) (h : HasRoom columns ws text) :
    IsBlock columns ws text (block ws (columns.map text)) where
  height := by
    have hlength : (block ws (columns.map text)).length = Table.height (columns.map text) := by
      rw [block, List.length_map, List.length_range]
    rw [hlength]
    refine isGreatest_greatest (by simpa using hne) fun n => ?_
    simp only [List.mem_map, List.map_map, Function.comp_apply]
  line := by
    intro k line hk
    rw [block_eq, List.getElem?_map, Option.map_eq_some_iff] at hk
    obtain ⟨k', hk', rfl⟩ := hk
    obtain ⟨hlt, hrange⟩ := List.getElem?_eq_some_iff.mp hk'
    obtain rfl : k = k' := List.getElem_range hlt ▸ hrange
    refine ⟨_, ?_, rowLine_eq ws _, ?_⟩
    · rw [segments, List.length_map, List.length_zip, List.length_map, h.length_eq, Nat.min_self]
    · intro j col w hcol hw
      have hroom : lineWidth (Table.lineAt (text col) k) ≤ w :=
        (List.forall₂_iff_zip.mp (h.lineAt k)).2
          (List.mem_of_getElem? (List.getElem?_zip_eq_some.mpr ⟨hcol, hw⟩))
      refine ⟨w - lineWidth (Table.lineAt (text col) k), Nat.add_sub_cancel' hroom, ?_⟩
      exact getElem?_segments hw (by rw [List.getElem?_map, hcol]; rfl)

end Blocks

section Lines

variable {columns : List (Column α)} {items : List α}

/-- A column has room for its title and its cells. -/
theorem hasRoom_widths {text : Column α → String}
    (h : ∀ col ∈ columns, text col ∈ col.title :: items.map col.cell) :
    HasRoom columns (widths columns items) text := by
  refine List.forall₂_map_right_iff.mpr (List.forall₂_same.mpr fun col hcol line hline => ?_)
  exact (isWidth_widest items col).2 ⟨text col, h col hcol, line, hline, rfl⟩

theorem hasRoom_title : HasRoom columns (widths columns items) Column.title :=
  hasRoom_widths fun _ _ => List.mem_cons_self

theorem hasRoom_cell {item : α} (hitem : item ∈ items) :
    HasRoom columns (widths columns items) fun col => col.cell item :=
  hasRoom_widths fun _ _ => List.mem_cons_of_mem _ (List.mem_map_of_mem hitem)

/-- A line of a table is a rule or belongs to a block whose texts have room. -/
theorem mem_lines {line : List Char} (h : line ∈ lines columns items) :
    line = rule (widths columns items) ∨ ∃ text, HasRoom columns (widths columns items) text ∧
      line ∈ block (widths columns items) (columns.map text) := by
  simp only [lines, List.mem_append, List.mem_cons, List.mem_flatMap, List.not_mem_nil,
    or_false] at h
  rcases h with ((hrule | htitle) | hrule) | ⟨item, hitem, hcell | hrule⟩
  · exact Or.inl hrule
  · exact Or.inr ⟨_, hasRoom_title, htitle⟩
  · exact Or.inl hrule
  · exact Or.inr ⟨_, hasRoom_cell hitem, hcell⟩
  · exact Or.inl hrule

/-- The lines of a table are found again in its text. -/
theorem splitAt_render (columns : List (Column α)) (items : List α) :
    splitAt '\n' (render columns items).toList = lines columns items := by
  rw [render, String.toList_ofList]
  refine splitAt_intercalate (List.cons_ne_nil _ _) fun line hline => ?_
  rcases mem_lines hline with rfl | ⟨text, -, hblock⟩
  · exact newline_not_mem_rule _
  · exact newline_not_mem_of_mem_block hblock

/-- Titles without line ends take one line. -/
theorem exists_header (items : List α) (hne : columns ≠ [])
    (htitles : ∀ col ∈ columns, '\n' ∉ col.title.toList) :
    ∃ header, block (widths columns items) (columns.map Column.title) = [header] := by
  have hblock : IsBlock columns (widths columns items) Column.title
      (block (widths columns items) (columns.map Column.title)) := isBlock_block hne hasRoom_title
  obtain ⟨col, hcol, hlength⟩ := hblock.height.1
  have hone : (cellLines col.title).length = 1 :=
    congrArg List.length (splitAt_of_not_mem (htitles col hcol))
  exact List.length_eq_one_iff.mp (hlength.symm.trans hone)

/-- Items in columns with short titles are tabulated. -/
theorem tabulates_render (hne : columns ≠ []) (htitles : ∀ col ∈ columns, '\n' ∉ col.title.toList)
    (items : List α) : Tabulates columns items (render columns items) := by
  obtain ⟨header, hheader⟩ := exists_header items hne htitles
  refine ⟨widths columns items, _, header,
    items.map fun item => block (widths columns items) (columns.map fun col => col.cell item),
    ?_, rfl, ?_, ?_, ?_, fun line hline => ?_⟩
  · exact List.forall₂_map_right_iff.mpr
      (List.forall₂_same.mpr fun col _ => isWidth_widest items col)
  · exact hheader ▸ isBlock_block hne hasRoom_title
  · refine List.forall₂_map_right_iff.mpr (List.forall₂_same.mpr fun item hitem => ?_)
    exact isBlock_block hne (hasRoom_cell hitem)
  · rw [splitAt_render, lines, hheader, List.flatMap_map]
    rfl
  · rw [splitAt_render] at hline
    rcases mem_lines hline with rfl | ⟨text, hroom, hblock⟩
    · exact lineWidth_rule _
    · exact lineWidth_of_mem_block hroom hblock

end Lines

end Table

open Table

/-- A text tabulates machines. Each field stands under its own title, and behind them a mark. -/
def TabulatesMachines (machines : List Machine) (text : String) : Prop :=
  ∃ written : Float → String, (∀ x, ShowsAmount x (written x)) ∧ Tabulates
    [⟨"Provider", fun m => m.provider⟩, ⟨"Instance", fun m => m.instanceType⟩,
      ⟨"vCPU(s)", fun m => toString m.vcpus.toNat⟩, ⟨"Memory(GB)", fun m => written m.memory⟩,
      ⟨"GPU(s)", fun m => m.accelerator ++ ":" ++ toString m.acceleratorCount.toNat⟩,
      ⟨"Region", fun m => m.region⟩, ⟨"Cost", fun m => written m.cost⟩,
      ⟨"Selected", fun _ => "✓"⟩]
    machines text

theorem tabulatesMachines_machineTable (machines : List Machine) :
    TabulatesMachines machines (machineTable machines) := by
  refine ⟨amountText, showsAmount_amountText, ?_⟩
  simp only [← Decimal.natText_eq]
  exact tabulates_render (List.cons_ne_nil _ _) (by simp) machines

/-- Without jobs there are only titles. -/
example : jobTable [] = String.intercalate "\n"
    ["+----------+--------+--------+---------+------------------+------+",
      "| Job Name | Job ID | Status | Created | Spend Time(hour) | Cost |",
      "+----------+--------+--------+---------+------------------+------+"] := by
  decide +kernel

end LaunchDesk
