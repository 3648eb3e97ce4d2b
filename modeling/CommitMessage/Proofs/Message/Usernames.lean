import CommitMessage.Proofs.Message.LineEnds

/-! The entries of a username list tile it. Each stands at its column without the blanks around it,
and with these blanks and a comma between every two they make up the whole content of the trailer,
up to its period. -/

namespace CommitMessage

/-! The end of a text -/

namespace Text

variable {t lead : Text} {c : Char}

theorem pieces_ne_nil (separator : Char) (t : Text) : t.pieces separator ≠ [] := by
  obtain ⟨part, parts, ht, -⟩ := pieces_cons separator separator t
  rw [ht]
  exact List.cons_ne_nil _ _

theorem dropFinal_append (h : t ≠ []) : dropFinal c (lead ++ t) = lead ++ dropFinal c t := by
  unfold dropFinal
  rw [List.getLast?_append_of_ne_nil _ h]
  split
  · exact List.dropLast_append_of_ne_nil h
  · rfl

/-- What is left of the end of a text once blanks and one final character are taken off. -/
theorem drop_dropFinal_trimEnd (c : Char) (lead t : Text) :
    (dropFinal c (lead ++ t).trimEnd).drop lead.length = dropFinal c t.trimEnd := by
  by_cases h : t.trimEnd = []
  · have hprefix : dropFinal c (lead ++ t).trimEnd <+: lead := by
      rw [trimEnd_append_of_blank lead (trimEnd_eq_nil_iff.mp h)]
      exact (dropFinal_isPrefix c _).trans (trimEnd_isPrefix lead)
    rw [h, List.drop_eq_nil_of_le hprefix.length_le]
    rfl
  · rw [trimEnd_append_of_ne_nil lead h, dropFinal_append h, List.drop_left]

/-- A text without blanks at its ends. -/
structure IsTrimmed (t : Text) : Prop where
  head : ∀ c ∈ t.head?, isBlank c = false
  last : ∀ c ∈ t.getLast?, isBlank c = false

theorem isTrimmed_trim (t : Text) : t.trim.IsTrimmed where
  head c hc := by
    obtain ⟨rest, hr⟩ := List.head?_eq_some_iff.mp hc
    obtain ⟨more, hm⟩ := trimEnd_isPrefix t.trimStart
    rw [← trim, hr] at hm
    exact not_of_head?_dropWhile (t := t) (by rw [← trimStart, ← hm]; rfl)
  last c hc := by
    have hne : t.trim ≠ [] := List.ne_nil_of_mem (List.mem_of_getLast? hc)
    have hlast : ¬ isBlank (t.trim.getLast hne) = true :=
      List.rdropWhile_last_not isBlank t.trimStart hne
    rw [Option.some.inj ((List.getLast?_eq_some_getLast hne).symm.trans hc)] at hlast
    simpa using hlast

end Text

/-! Tokens -/

namespace UsernameToken

variable {column : Nat} {t : Text} {tokens : List UsernameToken} {token : UsernameToken}

/-- The entry, which begins at the column, is the token with blanks around it. -/
def Fills (column : Nat) (entry : Text) (token : UsernameToken) : Prop :=
  ∃ before after, entry = before ++ token.text ++ after ∧ (∀ c ∈ before, isBlank c = true) ∧
    (∀ c ∈ after, isBlank c = true) ∧ token.column = column + before.length

/-- The text, which begins at the column, is made up of entries with a comma between every two, and
these are the tokens that fill them. -/
inductive Tile : Nat → Text → List UsernameToken → Prop where
  | last {column : Nat} {entry : Text} {token : UsernameToken} (hf : Fills column entry token) :
      Tile column entry [token]
  | cons {column : Nat} {entry rest : Text} {token : UsernameToken} {tokens : List UsernameToken}
      (hf : Fills column entry token) (h : Tile (column + entry.length + 1) rest tokens) :
      Tile column (entry ++ ',' :: rest) (token :: tokens)

theorem fills_trim (column : Nat) (entry : Text) :
    Fills column entry ⟨entry.trim, column + (entry.takeWhile isBlank).length⟩ := by
  obtain ⟨after, he, ha⟩ := Text.exists_trim_append entry
  exact ⟨entry.takeWhile isBlank, after, he, fun c => List.mem_takeWhile_imp, ha, rfl⟩

theorem tile_ofEntries {entries : List Text} (hn : entries ≠ []) (column : Nat) :
    Tile column (Text.joinWith [','] entries) (ofEntries column entries) := by
  induction entries generalizing column with
  | nil => exact absurd rfl hn
  | cons entry entries ih =>
    cases entries with
    | nil => exact .last (fills_trim column entry)
    | cons next entries =>
      rw [Text.joinWith, List.append_assoc, List.singleton_append]
      · exact .cons (fills_trim column entry) (ih (List.cons_ne_nil _ _) _)
      · exact List.cons_ne_nil _ _

theorem mem_ofEntries {entries : List Text} (h : token ∈ ofEntries column entries) :
    ∃ entry ∈ entries, token.text = entry.trim := by
  induction entries generalizing column with
  | nil => cases h
  | cons entry entries ih =>
    rcases List.mem_cons.mp h with rfl | h
    · exact ⟨entry, List.mem_cons_self, rfl⟩
    · obtain ⟨other, hm, he⟩ := ih h
      exact ⟨other, List.mem_cons_of_mem _ hm, he⟩

end UsernameToken

namespace Trailer

variable {t : Trailer} {line : Text} {token : UsernameToken}

/-- The text of a token is a piece of the content, and so has no comma, with its blanks off. -/
theorem text_of_mem_usernames (h : token ∈ t.usernames) :
    ',' ∉ token.text ∧ token.text.IsTrimmed := by
  obtain ⟨entry, hm, he⟩ := UsernameToken.mem_ofEntries h
  obtain ⟨after, ha, -⟩ := Text.exists_trim_append entry
  rw [he]
  refine ⟨fun hc => Text.notMem_of_mem_pieces hm ?_, Text.isTrimmed_trim entry⟩
  rw [ha]
  exact List.mem_append_left _ (List.mem_append_right _ hc)

/-- The entries of a list stand in the line at their columns, in order and apart, and tile what is
left of the line after the keyword: the line without the blanks at its end and one period. -/
theorem usernames_tile (h : ofLine? line = some t) :
    (∀ token ∈ t.usernames, t.contentStart ≤ token.column ∧ token.columnEnd ≤ line.length ∧
      (line.take token.columnEnd).drop token.column = token.text ∧ ',' ∉ token.text ∧
        token.text.IsTrimmed) ∧
    t.usernames.Pairwise (fun a b => a.columnEnd < b.column) ∧
    UsernameToken.Tile t.contentStart
      ((Text.dropFinal '.' line.trimEnd).drop t.contentStart) t.usernames := by
  refine ⟨fun token hm => ⟨UsernameToken.le_column hm, ?_, ?_, text_of_mem_usernames hm⟩,
    UsernameToken.pairwise_columnEnd _ _, ?_⟩
  · obtain ⟨before, after, rfl, hc⟩ := usernames_at h hm
    simp only [UsernameToken.columnEnd, List.length_append]
    omega
  · obtain ⟨before, after, rfl, hc⟩ := usernames_at h hm
    rw [UsernameToken.columnEnd, ← hc, ← List.length_append, List.take_left, List.drop_left]
  · have hline : line = (t.written ++ t.gap) ++ t.content := (append_of_ofLine? h).symm
    have hlength : t.contentStart = (t.written ++ t.gap).length := List.length_append.symm
    have htile : UsernameToken.Tile t.contentStart (Text.dropFinal '.' t.content.trimEnd)
        t.usernames := by
      have hentries := UsernameToken.tile_ofEntries
        (Text.pieces_ne_nil ',' (Text.dropFinal '.' t.content.trimEnd)) t.contentStart
      rwa [Text.joinWith_pieces] at hentries
    have hrest := Text.drop_dropFinal_trimEnd '.' (t.written ++ t.gap) t.content
    rwa [hline, hlength, hrest, ← hlength]

/-- A list with an entry that is blank, and blanks on both sides of its period. -/
theorem usernames_tile_blankEntry :
    let line : Text := "Props  al , , b2 . ".toList
    let t : Trailer := ⟨.props, "Props".toList, "  ".toList, "al , , b2 . ".toList⟩
    ofLine? line = some t ∧ t.usernames = [⟨"al".toList, 7⟩, ⟨[], 12⟩, ⟨"b2".toList, 14⟩] ∧
      UsernameToken.Tile 7 "al , , b2 ".toList t.usernames := by
  intro line t
  have hl : ofLine? line = some t := by decide
  have htext : (Text.dropFinal '.' line.trimEnd).drop t.contentStart = "al , , b2 ".toList := by
    decide
  exact ⟨hl, by decide, htext ▸ (usernames_tile hl).2.2⟩

end Trailer

end CommitMessage
