import CommitMessage.Lookup.Response
import Mathlib

/-! The two readings of a ticket export, by its lines and by its rows. They disagree on whether
there is a ticket only if the header takes up more than one line and the second of them is blank. -/

namespace CommitMessage.Page

theorem exists_of_foldlM_cons {α β ε : Type} {f : β → α → Except ε β} {b b' : β} {a : α}
    {l : List α} (h : (a :: l).foldlM f b = .ok b') :
    ∃ next, f b a = .ok next ∧ l.foldlM f next = .ok b' := by
  rw [List.foldlM_cons] at h
  cases hf : f b a with
  | error e =>
    rw [hf] at h
    cases h
  | ok next =>
    rw [hf] at h
    exact ⟨next, rfl, h⟩

namespace TableReader

variable {r r' : TableReader} {c : Char} {line : Text}

/-! Characters, lines and the rows that are over -/

theorem add_eq_ok {place : TablePlace} (h : r.add c place = .ok r') :
    r'.rows = r.rows ∧ r'.row = r.row ∧ r'.place = place := by
  unfold add at h
  split at h
  · cases h
  · cases h
    exact ⟨rfl, rfl, rfl⟩

/-- A character leaves the rows before it alone. -/
theorem rows_of_readChar (h : r.readChar c = .ok r') : r'.rows = r.rows := by
  unfold readChar at h
  split at h <;> repeat' split at h
  all_goals first
    | exact (add_eq_ok h).1
    | (cases h <;> rfl)

theorem rows_of_foldlM (h : line.foldlM readChar r = .ok r') : r'.rows = r.rows := by
  induction line generalizing r with
  | nil =>
    cases h
    rfl
  | cons c line ih =>
    obtain ⟨next, hc, h⟩ := exists_of_foldlM_cons h
    exact (ih h).trans (rows_of_readChar hc)

/-- At the end of a line the row goes on inside quotes, or it is one more row. -/
theorem endLine_cases (r : TableReader) :
    (r.endLine.place = .inQuotes ∧ r.endLine.rows = r.rows) ∨
      (r.endLine.place = .rowStart ∧ r.endLine.row = [] ∧
        ∃ row, r.endLine.rows = row :: r.rows) := by
  unfold endLine
  split
  · exact .inr ⟨rfl, rfl, _, rfl⟩
  · exact .inr ⟨rfl, rfl, _, rfl⟩
  · exact .inr ⟨rfl, rfl, _, rfl⟩
  · exact .inr ⟨rfl, rfl, _, rfl⟩
  · exact .inr ⟨rfl, rfl, _, rfl⟩
  · next hp => exact .inl ⟨hp, rfl⟩

theorem exists_of_readLine (h : r.readLine line = .ok r') :
    ∃ read, line.foldlM readChar r = .ok read ∧ read.endLine = r' := by
  unfold readLine at h
  cases hc : line.foldlM readChar r with
  | error e =>
    rw [hc] at h
    cases h
  | ok read =>
    rw [hc] at h
    exact ⟨read, rfl, Except.ok.inj h⟩

theorem readLine_cases (h : r.readLine line = .ok r') :
    (r'.place = .inQuotes ∧ r'.rows = r.rows) ∨
      (r'.place = .rowStart ∧ r'.row = [] ∧ ∃ row, r'.rows = row :: r.rows) := by
  obtain ⟨read, hread, rfl⟩ := exists_of_readLine h
  rw [← rows_of_foldlM hread]
  exact endLine_cases read

theorem suffix_of_readLines {lines : List Text} (h : lines.foldlM readLine r = .ok r') :
    r.rows <:+ r'.rows := by
  induction lines generalizing r with
  | nil =>
    cases h
    exact List.suffix_refl _
  | cons line lines ih =>
    obtain ⟨next, hl, h⟩ := exists_of_foldlM_cons h
    have hnext : r.rows <:+ next.rows := by
      obtain ⟨-, he⟩ | ⟨-, -, row, he⟩ := readLine_cases hl
      · rw [he]
      · exact he ▸ List.suffix_cons row r.rows
    exact hnext.trans (ih h)

theorem prefix_finish (r : TableReader) : r.rows.reverse <+: r.finish := by
  unfold finish
  split
  · exact List.reverse_prefix.mpr (List.suffix_cons _ _)
  · exact List.prefix_refl _

theorem length_finish (r : TableReader) :
    r.finish.length = r.rows.length + if r.place = .inQuotes then 1 else 0 := by
  unfold finish
  split <;> simp [endRow, endField]

/-- A line makes at most one row, be it over or open. -/
theorem length_finish_le (h : r.readLine line = .ok r') :
    r'.finish.length ≤ r.finish.length + 1 := by
  rw [length_finish, length_finish]
  obtain ⟨hp, he⟩ | ⟨hp, -, row, he⟩ := readLine_cases h
  · rw [if_pos hp, he]
    omega
  · rw [if_neg (by rw [hp]; exact TablePlace.noConfusion), he, List.length_cons]
    omega

theorem length_finish_le_of_readLines {lines : List Text} (h : lines.foldlM readLine r = .ok r') :
    r'.finish.length ≤ r.finish.length + lines.length := by
  induction lines generalizing r with
  | nil =>
    cases h
    exact le_refl _
  | cons line lines ih =>
    obtain ⟨next, hl, h⟩ := exists_of_foldlM_cons h
    have hnext := length_finish_le hl
    have hlines := ih h
    rw [List.length_cons]
    omega

/-! Blank lines -/

/-- A row of which only blanks were read: one field at most. -/
structure IsBare (rows : List (List Text)) (r : TableReader) : Prop where
  rows : r.rows = rows
  row : (r.place = .rowStart ∨ r.place = .inField) ∧ r.row = [] ∨
    r.place = .afterBreak ∧ r.row.length ≤ 1

theorem IsBare.readChar {rows : List (List Text)} (hr : r.IsBare rows) (hc : isBlank c = true)
    (h : r.readChar c = .ok r') : r'.IsBare rows := by
  have hquote : c ≠ '"' := by
    rintro rfl
    exact absurd hc (by decide)
  have hcomma : c ≠ ',' := by
    rintro rfl
    exact absurd hc (by decide)
  refine ⟨(rows_of_readChar h).trans hr.rows, ?_⟩
  unfold TableReader.readChar at h
  rcases hr.row with ⟨hp | hp, hrow⟩ | ⟨hp, hrow⟩
  · simp only [hp, if_neg hquote, if_neg hcomma, if_true] at h
    split at h
    · cases h
      exact .inr ⟨rfl, by simp [hrow]⟩
    · obtain ⟨-, hadd, hplace⟩ := add_eq_ok h
      exact .inl ⟨.inr hplace, hadd.trans hrow⟩
  · simp only [hp, if_neg hcomma] at h
    split at h
    · cases h
      exact .inr ⟨rfl, by simp [endField, hrow]⟩
    · obtain ⟨-, hadd, hplace⟩ := add_eq_ok h
      exact .inl ⟨.inr hplace, hadd.trans hrow⟩
  · simp only [hp] at h
    split at h
    · cases h
      exact .inr ⟨hp, hrow⟩
    · cases h

theorem IsBare.foldlM {rows : List (List Text)} (hr : r.IsBare rows)
    (hb : line.isAllBlank = true) (h : line.foldlM TableReader.readChar r = .ok r') :
    r'.IsBare rows := by
  induction line generalizing r with
  | nil =>
    cases h
    exact hr
  | cons c line ih =>
    obtain ⟨hc, hline⟩ := Bool.and_eq_true_iff.mp hb
    obtain ⟨next, hread, h⟩ := exists_of_foldlM_cons h
    exact ih (hr.readChar hc hread) hline h

/-- A blank line where a row begins is a row of one field at most. -/
theorem rows_of_readLine_blank (hp : r.place = .rowStart) (hrow : r.row = [])
    (hb : line.isAllBlank = true) (h : r.readLine line = .ok r') :
    ∃ row, row.length ≤ 1 ∧ r'.rows = row :: r.rows := by
  obtain ⟨read, hread, rfl⟩ := exists_of_readLine h
  have hbare : read.IsBare r.rows := IsBare.foldlM ⟨rfl, .inl ⟨.inl hp, hrow⟩⟩ hb hread
  rcases hbare.row with ⟨hp | hp, hrow⟩ | ⟨hp, hrow⟩
  · exact ⟨[], Nat.zero_le 1, by simp [endLine, hp, endRow, hrow, hbare.rows]⟩
  · exact ⟨[read.field.reverse], le_refl 1,
      by simp [endLine, hp, endRow, endField, hrow, hbare.rows]⟩
  · exact ⟨read.row.reverse, by simpa using hrow, by simp [endLine, hp, endRow, hbare.rows]⟩

end TableReader

/-! Lines -/

variable {body : Text} {title : Text}

/-- The header line has its line feed; the line after it may go without. -/
theorem wholeLines_of_pieces {first second : Text} {rest : List Text}
    (h : body.pieces '\n' = first :: second :: rest) :
    wholeLines body = [first ++ ['\n']] ∨
      ∃ ending lines, Text.isAllBlank ending = true ∧
        wholeLines body = (first ++ ['\n']) :: (second ++ ending) :: lines := by
  rw [wholeLines, h]
  rcases List.eq_nil_or_concat rest with rfl | ⟨before, last, rfl⟩
  · cases second with
    | nil => exact .inl rfl
    | cons c second => exact .inr ⟨[], [], rfl, by simp⟩
  · refine .inr ⟨['\n'], before.map (· ++ ['\n']) ++ (if last.isEmpty then [] else [last]), rfl, ?_⟩
    simp

theorem length_wholeLines_of_pieces {only : Text} (h : body.pieces '\n' = [only]) :
    (wholeLines body).length ≤ 1 := by
  rw [wholeLines, h]
  cases only <;> simp

theorem exists_of_tableRows {rows : List (List Text)} (h : tableRows body = .ok rows) :
    ∃ reader, (wholeLines body).foldlM TableReader.readLine TableReader.start = .ok reader ∧
      reader.finish = rows := by
  unfold tableRows at h
  cases hr : (wholeLines body).foldlM TableReader.readLine TableReader.start with
  | error e =>
    rw [hr] at h
    cases h
  | ok reader =>
    rw [hr] at h
    exact ⟨reader, rfl, Except.ok.inj h⟩

theorem length_tableRows_le {rows : List (List Text)} (h : tableRows body = .ok rows) :
    rows.length ≤ (wholeLines body).length := by
  obtain ⟨reader, hread, rfl⟩ := exists_of_tableRows h
  simpa [TableReader.length_finish, TableReader.start] using
    TableReader.length_finish_le_of_readLines hread

/-! Tickets -/

/-- The first line leaves a quoted field of the header open, and the second is blank. -/
def BlankInHeader (body : Text) : Prop :=
  ∃ first second rest reader, body.pieces '\n' = first :: second :: rest ∧
    TableReader.start.readLine (first ++ ['\n']) = .ok reader ∧ reader.place = .inQuotes ∧
      second.isAllBlank = true

/-- A title stands in the second field of the second row. -/
theorem rows_of_ticketTitle (h : ticketTitle body = .ok (some title)) :
    ∃ header number summary fields rows,
      tableRows body = .ok (header :: (number :: summary :: fields) :: rows) := by
  unfold ticketTitle at h
  split at h
  · next hrows => exact ⟨_, _, _, _, _, hrows⟩
  · cases h

/-- A title takes two lines. -/
theorem pieces_of_ticketTitle (h : ticketTitle body = .ok (some title)) :
    ∃ first second rest ending lines, body.pieces '\n' = first :: second :: rest ∧
      Text.isAllBlank ending = true ∧
        wholeLines body = (first ++ ['\n']) :: (second ++ ending) :: lines := by
  obtain ⟨header, number, summary, fields, rows, hrows⟩ := rows_of_ticketTitle h
  have hlength : 2 ≤ (wholeLines body).length := by
    have hle := length_tableRows_le hrows
    simp only [List.length_cons] at hle
    omega
  cases hp : body.pieces '\n' with
  | nil => simp [wholeLines, hp] at hlength
  | cons first parts =>
    cases parts with
    | nil =>
      have hle := length_wholeLines_of_pieces hp
      omega
    | cons second rest =>
      rcases wholeLines_of_pieces hp with hone | ⟨ending, lines, hending, hlines⟩
      · simp [hone] at hlength
      · exact ⟨first, second, rest, ending, lines, rfl, hending, hlines⟩

/-- A blank line after a header that is over makes a second row without a title. -/
theorem second_row_of_blank {first second : Text} {lines : List Text} {reader : TableReader}
    {header fields : List Text} {rows : List (List Text)}
    (hlines : wholeLines body = first :: second :: lines)
    (hfirst : TableReader.start.readLine first = .ok reader) (hp : reader.place = .rowStart)
    (hb : second.isAllBlank = true) (h : tableRows body = .ok (header :: fields :: rows)) :
    fields.length ≤ 1 := by
  obtain ⟨last, hread, hfinish⟩ := exists_of_tableRows h
  rw [hlines] at hread
  obtain ⟨_, hstart, hread⟩ := exists_of_foldlM_cons hread
  cases hfirst.symm.trans hstart
  obtain ⟨next, hnext, hread⟩ := exists_of_foldlM_cons hread
  obtain ⟨hq, -⟩ | ⟨-, hrow, top, htop⟩ := TableReader.readLine_cases hfirst
  · rw [hp] at hq
    cases hq
  · obtain ⟨row, hle, hrows⟩ := TableReader.rows_of_readLine_blank hp hrow hb hnext
    have hbegin : [top, row] <+: header :: fields :: rows := by
      have hsuffix := TableReader.suffix_of_readLines hread
      rw [hrows, htop, ← List.reverse_prefix] at hsuffix
      exact hfinish ▸ hsuffix.trans (TableReader.prefix_finish last)
    have hsecond := (List.cons_prefix_cons.mp hbegin).2
    exact (List.cons_prefix_cons.mp hsecond).1 ▸ hle

theorem ticketExists_eq_false_iff (h : ticketTitle body = .ok (some title)) :
    ticketExists body = false ↔ BlankInHeader body := by
  obtain ⟨header, number, summary, fields, rows, hrows⟩ := rows_of_ticketTitle h
  obtain ⟨first, second, rest, ending, lines, hpieces, hending, hlines⟩ := pieces_of_ticketTitle h
  have hexists : ticketExists body = !second.isAllBlank := by rw [ticketExists, hpieces]
  rw [hexists, Bool.not_eq_false']
  constructor
  · intro hb
    obtain ⟨last, hread, -⟩ := exists_of_tableRows hrows
    rw [hlines] at hread
    obtain ⟨reader, hfirst, -⟩ := exists_of_foldlM_cons hread
    refine ⟨first, second, rest, reader, hpieces, hfirst, ?_, hb⟩
    obtain ⟨hp, -⟩ | ⟨hp, -, -⟩ := TableReader.readLine_cases hfirst
    · exact hp
    · have hblank : Text.isAllBlank (second ++ ending) = true := by
        rw [Text.isAllBlank, List.all_append]
        exact Bool.and_eq_true_iff.mpr ⟨hb, hending⟩
      have hle := second_row_of_blank hlines hfirst hp hblank hrows
      simp at hle
  · rintro ⟨_, _, _, _, hpieces', -, -, hb⟩
    rw [hpieces] at hpieces'
    cases hpieces'
    exact hb

end CommitMessage.Page

namespace CommitMessage.Reference

variable {body : Text} {title : Text}

/-- A ticket whose title the export carries exists and is shown with it, unless the export has a
header with a blank second line. -/
theorem readPage_of_ticketTitle (h : Page.ticketTitle body = .ok (some title)) :
    (¬ Page.BlankInHeader body →
      Page.ticketExists body = true ∧ readPage .ticket body = .ok ⟨true, some title⟩) ∧
      (Page.BlankInHeader body →
        Page.ticketExists body = false ∧ readPage .ticket body = .ok ⟨false, none⟩) := by
  rw [← Page.ticketExists_eq_false_iff h]
  constructor
  · intro he
    have hexists : Page.ticketExists body = true := Bool.not_eq_false _ ▸ he
    exact ⟨hexists, by rw [readPage, if_pos hexists, h]; rfl⟩
  · intro he
    exact ⟨he, by rw [readPage, he]; rfl⟩

/-- A field of this header goes on in the second line, which shows something. -/
def brokenHeader : Text := "\"id\nno\",summary\n1,One\n".toList

theorem readPage_of_ticketTitle_brokenHeader :
    Page.ticketTitle brokenHeader = .ok (some "One".toList) ∧ ¬ Page.BlankInHeader brokenHeader ∧
      Page.ticketExists brokenHeader = true ∧
        readPage .ticket brokenHeader = .ok ⟨true, some "One".toList⟩ := by
  have ht : Page.ticketTitle brokenHeader = .ok (some "One".toList) := by rfl
  have hb : ¬ Page.BlankInHeader brokenHeader := by
    rintro ⟨first, second, rest, _, hpieces, -, -, hblank⟩
    have hsecond : second = "no\",summary".toList := by
      rw [show brokenHeader.pieces '\n' =
        ["\"id".toList, "no\",summary".toList, "1,One".toList, []] from rfl] at hpieces
      exact (List.cons.inj (List.cons.inj hpieces).2).1.symm
    rw [hsecond] at hblank
    exact absurd hblank (by decide)
  exact ⟨ht, hb, (readPage_of_ticketTitle ht).1 hb⟩

/-- The two readings disagree where a blank line stands inside the header. -/
theorem exists_ticketTitle_not_ticketExists :
    ∃ body title, Page.ticketTitle body = .ok (some title) ∧ Page.ticketExists body = false ∧
      readPage .ticket body = .ok ⟨false, none⟩ :=
  ⟨"\"id\n\nno\",summary\n1,One\n".toList, "One".toList, by rfl, by rfl, by rfl⟩

end CommitMessage.Reference
