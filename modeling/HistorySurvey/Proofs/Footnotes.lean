import HistorySurvey.Proofs.Agreement
import HistorySurvey.Proofs.Identifier
import Mathlib.Data.List.Nodup

/-! Footnotes and the marks that cite them. A number is given out while the rows are made, and the note
is printed after the last row. Both come from one list of notes that only grows, so what one row does
to it tells which marks stand in all of them. -/
namespace HistorySurvey

namespace Row

def mark (number : Nat) : String := " [" ++ toString number ++ "]"

/-- The name of the row ends in the number of a footnote. -/
def Carries (row : Row) (number : Nat) : Prop := ∃ label, row.name = label ++ mark number

theorem mark_toList (number : Nat) :
    (mark number).toList = ' ' :: '[' :: Nat.toDigits 10 number ++ [']'] := by
  simp [mark]

/-- A name ends in one number only, since the digits of a number end at the bracket before it. -/
theorem append_mark_inj {label other : String} {number another : Nat}
    (same : label ++ mark number = other ++ mark another) : number = another := by
  have digits (n : Nat) (before : List Char) :
      (before ++ ' ' :: '[' :: Nat.toDigits 10 n).reverse.takeWhile Char.isDigit =
        (Nat.toDigits 10 n).reverse := by
    have all : ∀ c ∈ (Nat.toDigits 10 n).reverse, c.isDigit = true :=
      fun c member => Text.isDigit_of_mem_toDigits (List.mem_reverse.mp member)
    rw [List.reverse_append, List.reverse_cons, List.reverse_cons, List.append_assoc,
      List.append_assoc, List.takeWhile_append_of_pos all]
    simp
  have chars := congrArg String.toList same
  rw [String.toList_append, String.toList_append, mark_toList, mark_toList, ← List.append_assoc,
    ← List.append_assoc] at chars
  have ended := congrArg (·.reverse.takeWhile Char.isDigit) (List.append_inj_left' chars rfl)
  have written := (digits number label.toList).symm.trans (ended.trans (digits another other.toList))
  rw [← Text.digitsValue_toDigits number, List.reverse_injective written,
    Text.digitsValue_toDigits]

theorem Carries.eq_of_name {row : Row} {label : String} {number another : Nat}
    (carries : row.Carries another) (name : row.name = label ++ mark number) : another = number := by
  obtain ⟨other, same⟩ := carries
  exact append_mark_inj (same.symm.trans name)

theorem Carries.getLast? {row : Row} {number : Nat} (carries : row.Carries number) :
    row.name.toList.getLast? = some ']' := by
  obtain ⟨label, name⟩ := carries
  rw [name, String.toList_append, mark_toList, ← List.append_assoc, List.getLast?_concat]

end Row

/-! Who is behind a line, and what it is called. -/

namespace Line

def offender? : Line RatedItem → Option Contender
  | heading _ _ => none
  | entry _ rated => rated.offender

def label : Line RatedItem → String
  | heading depth title => Table.indented title depth
  | entry depth rated => Table.indented rated.item.label depth

end Line

namespace Table

open Row

/-- What a footnote says after the identifier. -/
def called : NameStyle → Option String → String
  | .full, some name => " (" ++ name ++ ")"
  | _, _ => ""

/-- The footnote on an offender, in a style that shows objects. -/
def note (style : NameStyle) (offender : Contender) : String :=
  offender.id.toHex ++ called style offender.name

theorem note?_eq {style : NameStyle} (shown : style ≠ .nothing) (offender : Contender) :
    note? style offender = some (note style offender) := by
  cases style with
  | nothing => contradiction
  | hash => simp [note?, note, called]
  | full => cases name : offender.name <;> simp [note?, note, called, name, String.append_assoc]

theorem called_full_injective : Function.Injective (called .full) := by
  rintro (_ | first) (_ | second) same
  · rfl
  · simp [called] at same
  · simp [called] at same
  · have chars := congrArg String.toList same
    simp only [called, String.toList_append, List.append_assoc, List.append_cancel_left_eq,
      List.append_cancel_right_eq, String.toList_inj] at chars
    rw [chars]

/-- The identifier takes up the same room in every note, so notes differ where identifiers do, and
otherwise where names do. -/
theorem note_inj {style : NameStyle} (shown : style ≠ .nothing) {a b : Contender} :
    note style a = note style b ↔ a.id = b.id ∧ (style = .full → a.name = b.name) := by
  constructor
  · intro same
    have chars := congrArg String.toList same
    rw [note, note, String.toList_append, String.toList_append] at chars
    have lengths : a.id.toHex.toList.length = b.id.toHex.toList.length :=
      a.id.toHex_length.trans b.id.toHex_length.symm
    obtain ⟨ids, names⟩ := List.append_inj chars lengths
    refine ⟨ObjectId.toHex_injective (String.toList_injective ids), ?_⟩
    rintro rfl
    exact called_full_injective (String.toList_injective names)
  · rintro ⟨ids, names⟩
    cases style with
    | nothing => contradiction
    | hash => simp only [note, called, ids]
    | full => rw [note, note, ids, names rfl]

/-! One row. -/

/-- What a row does to the footnotes. It leaves them alone if nobody is behind it. Otherwise its mark
is the number of a note on the offender, which is added at the end unless there is one. -/
inductive Cites (style : NameStyle) (notes : List String) (line : Line RatedItem) (row : Row) :
    List String → Prop
  | nobody (nobody : line.offender? = none) (name : row.name = line.label) :
      Cites style notes line row notes
  | again (offender : Contender) (place : Nat) (behind : line.offender? = some offender)
      (known : notes[place]? = some (note style offender))
      (name : row.name = line.label ++ mark (place + 1)) : Cites style notes line row notes
  | first (offender : Contender) (behind : line.offender? = some offender)
      (fresh : note style offender ∉ notes)
      (name : row.name = line.label ++ mark (notes.length + 1)) :
      Cites style notes line row (notes ++ [note style offender])

theorem row_cites {style : NameStyle} (shown : style ≠ .nothing) (notes : List String)
    (line : Line RatedItem) :
    Cites style notes line (row style notes line).2 (row style notes line).1 := by
  cases line with
  | heading depth title => exact .nobody rfl rfl
  | entry depth rated =>
    rw [row]
    cases behind : rated.offender with
    | none => exact .nobody behind rfl
    | some offender =>
      have name (number : Nat) : indented rated.item.label depth ++ " [" ++ toString number ++ "]" =
          indented rated.item.label depth ++ mark number := by
        rw [mark, String.append_assoc, String.append_assoc, String.append_assoc]
      rw [Option.bind_some, note?_eq shown]
      simp only [cite, name]
      split
      · next place found =>
        have known : notes[place]? = some (note style offender) := by
          obtain ⟨inside, same, _⟩ := List.idxOf?_eq_some_iff.mp found
          rw [List.getElem?_eq_getElem inside, same]
        exact .again offender place behind known rfl
      · next missing => exact .first offender behind (List.idxOf?_eq_none_iff.mp missing) rfl

/-- The row of a line carries the number of the note on its offender, and none if it has none. -/
def Marks (style : NameStyle) (notes : List String) (line : Line RatedItem) (row : Row) : Prop :=
  match line.offender? with
  | none => ∀ number, ¬ row.Carries number
  | some offender => ∃ place, notes[place]? = some (note style offender) ∧
      ∀ number, row.Carries number ↔ number = place + 1

/-- A title or label that cannot be taken for one with a mark. -/
def Unmarked (line : Line RatedItem) : Prop := line.label.toList.getLast? ≠ some ']'

variable {style : NameStyle} {notes after : List String} {line : Line RatedItem} {row : Row}

theorem Cites.grow (cites : Cites style notes line row after) : notes <+: after := by
  cases cites with
  | nobody | again => exact List.prefix_refl notes
  | first => exact List.prefix_append ..

theorem Cites.nodup (cites : Cites style notes line row after) (distinct : notes.Nodup) :
    after.Nodup := by
  cases cites with
  | nobody | again => exact distinct
  | first _ _ fresh =>
    rw [← List.concat_eq_append]
    exact List.Nodup.concat fresh distinct

theorem Cites.marks (cites : Cites style notes line row after) (unmarked : Unmarked line)
    {all : List String} (onward : after <+: all) : Marks style all line row := by
  have marked {label : String} {place : Nat} (name : row.name = label ++ mark (place + 1))
      (number : Nat) : row.Carries number ↔ number = place + 1 :=
    ⟨fun carries => carries.eq_of_name name, fun same => ⟨label, same ▸ name⟩⟩
  have kept {place : Nat} {text : String} (known : after[place]? = some text) :
      all[place]? = some text := by
    obtain ⟨inside, same⟩ := List.getElem?_eq_some_iff.mp known
    rw [List.prefix_iff_getElem?.mp onward place inside, same]
  cases cites with
  | nobody nobody name =>
    rw [Marks, nobody]
    intro number carries
    exact unmarked (name ▸ carries.getLast?)
  | again offender place behind known name =>
    rw [Marks, behind]
    exact ⟨place, kept known, marked name⟩
  | first offender behind _ name =>
    rw [Marks, behind]
    exact ⟨notes.length, kept List.getElem?_concat_length, marked name⟩

/-- A note that is new is cited by the row that brought it. -/
theorem Cites.carries (cites : Cites style notes line row after) {place : Nat}
    (fresh : notes.length ≤ place) (inside : place < after.length) : row.Carries (place + 1) := by
  cases cites with
  | nobody | again => omega
  | first _ _ _ name =>
    rw [List.length_append, List.length_singleton] at inside
    obtain rfl : place = notes.length := by omega
    exact ⟨line.label, name⟩

/-- A number is at most one more than there are notes before it. -/
theorem Cites.carries_le (cites : Cites style notes line row after) (unmarked : Unmarked line)
    {number : Nat} (carries : row.Carries number) : number ≤ notes.length + 1 := by
  cases cites with
  | nobody _ name => exact absurd (name ▸ carries.getLast?) unmarked
  | again _ place _ known name =>
    have inside := (List.getElem?_eq_some_iff.mp known).1
    rw [carries.eq_of_name name]
    omega
  | first _ _ _ name => exact Nat.le_of_eq (carries.eq_of_name name)

/-! All rows. -/

theorem rows_cons (style : NameStyle) (notes : List String) (line : Line RatedItem)
    (rest : List (Line RatedItem)) : rows style notes (line :: rest) =
      ((rows style (Table.row style notes line).1 rest).1,
        (Table.row style notes line).2 :: (rows style (Table.row style notes line).1 rest).2) := rfl

section Shown

variable (shown : style ≠ .nothing)

include shown

theorem rows_grow (notes : List String) (lines : List (Line RatedItem)) :
    notes <+: (rows style notes lines).1 := by
  induction lines generalizing notes with
  | nil => exact List.prefix_refl notes
  | cons line rest ih => exact (row_cites shown notes line).grow.trans (ih _)

theorem rows_nodup (distinct : notes.Nodup) (lines : List (Line RatedItem)) :
    (rows style notes lines).1.Nodup := by
  induction lines generalizing notes with
  | nil => exact distinct
  | cons line rest ih => exact ih ((row_cites shown notes line).nodup distinct)

/-- The notes at the end are those that every row along the way had, so a mark made early is right. -/
theorem rows_mark (notes : List String) {lines : List (Line RatedItem)}
    (unmarked : ∀ line ∈ lines, Unmarked line) :
    List.Forall₂ (Marks style (rows style notes lines).1) lines (rows style notes lines).2 := by
  induction lines generalizing notes with
  | nil => exact .nil
  | cons line rest ih =>
    have first := (row_cites shown notes line).marks (unmarked line List.mem_cons_self)
      (rows_grow shown _ rest)
    exact .cons first (ih _ fun line member => unmarked line (List.mem_cons_of_mem _ member))

/-- Every note that is new is cited. -/
theorem rows_carry (lines : List (Line RatedItem)) {place : Nat} (fresh : notes.length ≤ place)
    (inside : place < (rows style notes lines).1.length) :
    ∃ row ∈ (rows style notes lines).2, row.Carries (place + 1) := by
  induction lines generalizing notes with
  | nil => exact absurd inside (Nat.not_lt.mpr fresh)
  | cons line rest ih =>
    by_cases old : place < (Table.row style notes line).1.length
    · exact ⟨_, List.mem_cons_self, (row_cites shown notes line).carries fresh old⟩
    · obtain ⟨row, member, carries⟩ := ih (Nat.not_lt.mp old) inside
      exact ⟨row, List.mem_cons_of_mem _ member, carries⟩

omit shown in
/-- The row of a line is made with the notes that the lines before it left. -/
theorem rows_split {lines : List (Line RatedItem)} {earlier later : List Row}
    (split : (rows style notes lines).2 = earlier ++ row :: later) :
    ∃ before line rest, lines = before ++ line :: rest ∧ (rows style notes before).2 = earlier ∧
      (Table.row style (rows style notes before).1 line).2 = row := by
  induction earlier generalizing notes lines with
  | nil =>
    cases lines with
    | nil => contradiction
    | cons line rest => exact ⟨[], line, rest, rfl, rfl, (List.cons.inj split).1⟩
  | cons first earlier ih =>
    cases lines with
    | nil => contradiction
    | cons line rest =>
      rw [rows_cons] at split
      obtain ⟨made, others⟩ := List.cons.inj split
      obtain ⟨before, cited, rest, rfl, rows, row⟩ := ih others
      exact ⟨line :: before, cited, rest, rfl, by rw [rows_cons, made, rows], row⟩

/-- A number is given out after all smaller ones. -/
theorem rows_in_order {lines : List (Line RatedItem)} (unmarked : ∀ line ∈ lines, Unmarked line)
    {earlier later : List Row} (split : (rows style [] lines).2 = earlier ++ row :: later)
    {number lower : Nat} (carries : row.Carries number) (positive : 0 < lower)
    (less : lower < number) : ∃ other ∈ earlier, other.Carries lower := by
  obtain ⟨before, line, rest, rfl, rfl, rfl⟩ := rows_split split
  have most := (row_cites shown _ line).carries_le (unmarked line (by simp)) carries
  cases lower with
  | zero => contradiction
  | succ place => exact rows_carry shown before (Nat.zero_le place) (by omega)

end Shown

/-- Two marks are the same exactly where the notes on the two offenders are. -/
theorem Marks.same_iff (shown : style ≠ .nothing) {notes : List String} (distinct : notes.Nodup)
    {first second : Line RatedItem} {row other : Row} (one : Marks style notes first row)
    (two : Marks style notes second other) {a b : Contender} (behind : first.offender? = some a)
    (beside : second.offender? = some b) : (∃ number, row.Carries number ∧ other.Carries number) ↔
      a.id = b.id ∧ (style = .full → a.name = b.name) := by
  rw [Marks, behind] at one
  rw [Marks, beside] at two
  obtain ⟨place, noted, carries⟩ := one
  obtain ⟨another, written, carried⟩ := two
  rw [← note_inj shown]
  constructor
  · rintro ⟨number, one, two⟩
    have same := ((carries number).mp one).symm.trans ((carried number).mp two)
    rw [Nat.succ.inj same, written] at noted
    exact (Option.some.inj noted).symm
  · intro same
    have inside := (List.getElem?_eq_some_iff.mp noted).1
    rw [same, ← written] at noted
    obtain rfl := (List.getElem?_inj inside distinct).mp noted
    exact ⟨_, (carries _).mpr rfl, (carried _).mpr rfl⟩

/-! No title and no label of the layout ends in a bracket. -/

def partLabel : Outline Item → String
  | .leaf item => item.label
  | .branch title _ => title

theorem layout_unmarked : ∀ part ∈ Outline.partsOfAll 0 layout,
    (partLabel part.2).toList.getLast?.any (· ≠ ']') = true := by
  decide +kernel

theorem indented_getLast? {text : String} {last : Char} (ended : text.toList.getLast? = some last)
    (depth : Nat) : (indented text depth).toList.getLast? = some last := by
  cases depth with
  | zero => exact ended
  | succ depth => rw [indented, String.toList_append, List.getLast?_append, ended, Option.some_or]

theorem indented_unmarked {text : String} (ended : text.toList.getLast?.any (· ≠ ']') = true)
    (depth : Nat) : (indented text depth).toList.getLast? ≠ some ']' := by
  cases found : text.toList.getLast? with
  | none => simp [found] at ended
  | some last =>
    rw [indented_getLast? found]
    simpa [found] using ended

end Table

namespace Summary

open Table

variable (s : Summary) (threshold : Threshold) (style : NameStyle) (scale : Scale)

/-- A line is the title of a section of the layout or one of its items, rated. -/
theorem part_of_line {s : Summary} {threshold : Threshold} {scale : Scale} {line : Line RatedItem}
    (member : line ∈ s.lines threshold scale) :
    (∃ depth title children, (depth, .branch title children) ∈ Outline.partsOfAll 0 layout ∧
      line = .heading depth title) ∨
    ∃ depth item, (depth, .leaf item) ∈ Outline.partsOfAll 0 layout ∧
      line = .entry depth ⟨item, item.rate s scale, item.offender s⟩ := by
  rw [lines, Outline.linesOfAll_eq, List.mem_filterMap] at member
  obtain ⟨⟨depth, item | ⟨title, children⟩⟩, part, own⟩ := member
  · obtain ⟨rated, picked, rfl⟩ := Option.map_eq_some_iff.mp own
    obtain ⟨_, rfl⟩ := RatedItem.pick_eq_some.mp picked
    exact .inr ⟨depth, item, part, rfl⟩
  · obtain ⟨_, same⟩ := Option.ite_none_right_eq_some.mp own
    exact .inl ⟨depth, title, children, part, (Option.some.inj same).symm⟩

theorem lines_unmarked : ∀ line ∈ s.lines threshold scale, Unmarked line := by
  intro line member
  obtain ⟨depth, title, children, part, rfl⟩ | ⟨depth, item, part, rfl⟩ := part_of_line member
  · exact indented_unmarked (layout_unmarked _ part) depth
  · exact indented_unmarked (layout_unmarked _ part) depth

/-- What the footnotes of a table have to do with its rows. -/
structure Footnoted : Prop where
  printed : s.tableText threshold style scale =
    if (s.tableRows threshold style scale).isEmpty then nothingFound
    else body (s.tableRows threshold style scale)
      ++ if (s.tableNotes threshold style scale).isEmpty then ""
        else "\n" ++ String.join ((s.tableNotes threshold style scale).mapIdx fun place note =>
          "[" ++ toString (place + 1) ++ "]  " ++ note ++ "\n")
  offenders : ∀ depth rated, .entry depth rated ∈ s.lines threshold scale →
    rated.offender = rated.item.offender s
  marked : List.Forall₂
    (fun line row => Shows line row ∧ Marks style (s.tableNotes threshold style scale) line row)
    (s.lines threshold scale) (s.tableRows threshold style scale)
  distinct : (s.tableNotes threshold style scale).Nodup
  cited : ∀ place < (s.tableNotes threshold style scale).length,
    ∃ row ∈ s.tableRows threshold style scale, row.Carries (place + 1)
  ordered : ∀ earlier row later number,
    s.tableRows threshold style scale = earlier ++ row :: later → row.Carries number →
    ∀ lower, 0 < lower → lower < number → ∃ other ∈ earlier, other.Carries lower
  shared : ∀ first ∈ (s.lines threshold scale).zip (s.tableRows threshold style scale),
    ∀ second ∈ (s.lines threshold scale).zip (s.tableRows threshold style scale),
    ∀ a b, first.1.offender? = some a → second.1.offender? = some b →
      ((∃ number, first.2.Carries number ∧ second.2.Carries number) ↔
        a.id = b.id ∧ (style = .full → a.name = b.name))

variable {s threshold style scale}

/-- Marks and footnotes tell who is behind a row, each note is cited, and they are numbered in the
order of the rows that cite them first. -/
theorem tableText_footnoted (s : Summary) (threshold : Threshold) (style : NameStyle) (scale : Scale)
    (shown : style ≠ .nothing) : s.Footnoted threshold style scale := by
  have unmarked := s.lines_unmarked threshold scale
  have marked := rows_mark shown [] unmarked
  have distinct := rows_nodup shown List.nodup_nil (s.lines threshold scale)
  exact {
    printed := s.tableText_eq threshold style scale
    offenders := fun depth rated member => by
      obtain ⟨_, _, _, _, same⟩ | ⟨_, item, _, same⟩ := part_of_line member
      · contradiction
      · obtain ⟨_, rfl⟩ := Line.entry.inj same
        rfl
    marked := List.forall₂_iff_zip.mpr ⟨marked.length_eq, fun inside =>
      ⟨(List.forall₂_iff_zip.mp (s.tableRows_show threshold style scale)).2 inside,
        (List.forall₂_iff_zip.mp marked).2 inside⟩⟩
    distinct := distinct
    cited := fun place inside => rows_carry shown _ (Nat.zero_le place) inside
    ordered := fun _ _ _ _ split carries _ positive less =>
      rows_in_order shown unmarked split carries positive less
    shared := fun first one second two _ _ behind beside =>
      Marks.same_iff shown distinct ((List.forall₂_iff_zip.mp marked).2 one)
        ((List.forall₂_iff_zip.mp marked).2 two) behind beside }

/-- The large blob, and a root tree with many directories and many files. -/
def crowded : Summary :=
  largeBlob.recordCheckout ⟨0, 1, .ofNat 2, ⟨.ofNat 3,
    { Checkout.empty with trees := .ofNat 16000, blobs := .ofNat 400000 }⟩⟩ (some "main")

/-- The blob is behind a row and the root tree behind the two rows after it, which share a footnote
that comes after the one on the blob. -/
theorem tableText_footnoted_crowded : NameStyle.full ≠ .nothing ∧
    crowded.tableNotes .standard .full .standard =
      ["0000000000000000000000000000000000000001 (main:large)",
        "0000000000000000000000000000000000000002 (main^\x7btree\x7d)"] ∧
    ∃ above directories files,
      crowded.tableRows .standard .full .standard = above ++ [directories, files] ∧
      directories.Carries 2 ∧ files.Carries 2 ∧ ∃ row ∈ above, row.Carries 1 := by
  have shown : NameStyle.full ≠ .nothing := by decide
  have footnoted := tableText_footnoted crowded .standard .full .standard shown
  have notes : crowded.tableNotes .standard .full .standard =
      ["0000000000000000000000000000000000000001 (main:large)",
        "0000000000000000000000000000000000000002 (main^\x7btree\x7d)"] := by decide +kernel
  let above : List Row := [⟨"Biggest objects", "", ""⟩, ⟨"* Blobs", "", ""⟩,
    ⟨"  * Maximum size [1]", " 76.3 MiB", "***"⟩, ⟨"Biggest checkouts", "", ""⟩]
  let directories : Row := ⟨"* Number of directories [2]", " 16.0 k  ", "***"⟩
  let files : Row := ⟨"* Number of files [2]", "  400 k  ", "***"⟩
  have rows : crowded.tableRows .standard .full .standard = above ++ [directories, files] := by
    decide +kernel
  -- The same root tree is behind both rows, so they carry the same number.
  let behind (place value : Nat) : Prop :=
    ((crowded.lines .standard .standard)[place]?).bind Line.offender? =
      some ⟨.ofNat 2, value, some "main^\x7btree\x7d"⟩
  obtain ⟨one, fifth, first⟩ := Option.bind_eq_some_iff.mp
    (show behind 4 16000 by decide +kernel)
  obtain ⟨two, sixth, second⟩ := Option.bind_eq_some_iff.mp
    (show behind 5 400000 by decide +kernel)
  have pair {place : Nat} {line : Line RatedItem} {row : Row}
      (inside : (crowded.lines .standard .standard)[place]? = some line)
      (beside : (above ++ [directories, files])[place]? = some row) :
      (line, row) ∈ (crowded.lines .standard .standard).zip
        (crowded.tableRows .standard .full .standard) := by
    rw [rows]
    exact List.mem_of_getElem? (List.getElem?_zip_eq_some.mpr ⟨inside, beside⟩)
  obtain ⟨number, left, right⟩ := (footnoted.shared _ (pair fifth rfl) _ (pair sixth rfl) _ _
    first second).mpr ⟨rfl, fun _ => rfl⟩
  obtain rfl : number = 2 :=
    left.eq_of_name (show directories.name = "* Number of directories" ++ Row.mark 2 by decide)
  have earlier := footnoted.ordered above directories [files] 2 rows left 1 (by decide) (by decide)
  exact ⟨shown, notes, above, directories, files, rows, left, right, earlier⟩

end Summary

end HistorySurvey
