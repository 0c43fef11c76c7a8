import Rpn.Proofs.Expression.Reading
import Rpn.Proofs.Token.Separation

/-! Which fault of a text is reported.  Reading gives up at the first unknown word while it scans;
this is the same as to scan the whole text first and to judge its tokens afterwards. -/

namespace Rpn.Expression

open Token

/-- A token with the decimals of a named constant in the place of its name. -/
def decimal (token : Token) : Token :=
  if token.kind = .e then ⟨.number, ascii "2.718282", token.column⟩
  else if token.kind = .pi then ⟨.number, ascii "3.141593", token.column⟩
  else token

/-- The judgement of the tokens of a text, the end token apart.  Of several faults the first one
that is listed here counts. -/
def judge (tokens : List Token) : Except Bytes (List Token) :=
  match tokens.find? (·.kind == .invalid) with
  | some word => .error (ascii "Error parsing input: " ++ word.literal)
  | none =>
      match (tokens.map decimal).head?, (tokens.map decimal).getLast? with
      | some first, some last =>
          if first.kind ≠ .number then
            .error (ascii "Error (column " ++ Bytes.ofNat first.column ++
              ascii "): the program must begin with a number, found '" ++ first.literal ++
              ascii "'")
          else if 1 < tokens.length ∧ last.kind = .number then
            .error (ascii "Error (column " ++ Bytes.ofNat last.column ++
              ascii "): the program ends with the number '" ++ last.literal ++
              ascii "', which no operator consumes")
          else .ok (tokens.map decimal)
      | _, _ => .error (ascii "The input expression was empty")

theorem resolve_eq_decimal : resolve = decimal := by
  funext ⟨kind, literal, column⟩
  cases kind <;> rfl

theorem message_leadingToken (token : Token) :
    CompileError.message (.leadingToken token) =
      ascii "Error (column " ++ Bytes.ofNat token.column ++
        ascii "): the program must begin with a number, found '" ++ token.literal ++
        ascii "'" := by
  have words : ascii "): the program must begin with a number, found '" =
      ascii "): " ++ ascii "the program must begin with a number, found '" := by decide +kernel
  simp [CompileError.message, CompileError.atColumn, words]

theorem message_trailingNumber (token : Token) :
    CompileError.message (.trailingNumber token) =
      ascii "Error (column " ++ Bytes.ofNat token.column ++
        ascii "): the program ends with the number '" ++ token.literal ++
        ascii "', which no operator consumes" := by
  have words : ascii "): the program ends with the number '" =
      ascii "): " ++ ascii "the program ends with the number '" := by decide +kernel
  simp [CompileError.message, CompileError.atColumn, words]

/-- The rules on the first and the last token, with their messages. -/
theorem mapError_validate {tokens : List Token}
    (known : tokens.find? (·.kind == .invalid) = none) :
    (validate (tokens.map resolve)).mapError CompileError.message = judge tokens := by
  rw [judge, known, resolve_eq_decimal]
  cases tokens with
  | nil => rfl
  | cons first others =>
      simp only [List.map_cons, validate, List.head?_cons, List.getLast?_cons, List.length_cons]
      by_cases number : (decimal first).kind = .number
      · rw [if_neg (absurd number), if_neg (absurd number)]
        cases found : (others.map decimal).getLast? with
        | none =>
            have alone : others = [] := by simpa using found
            subst alone
            rfl
        | some last =>
            have more : 1 < others.length + 1 := by
              rw [Nat.lt_add_left_iff_pos, List.length_pos_iff]
              rintro rfl
              cases found
            by_cases trailing : last.kind = .number
            · simp only [Option.getD_some, trailing, more, and_self, if_true]
              exact congrArg Except.error (message_trailingNumber last)
            · simp only [Option.getD_some, trailing, and_false, if_false]
              rfl
      · rw [if_pos number, if_pos number]
        exact congrArg Except.error (message_leadingToken _)

/-- The loop that reads stops where scanning the whole text finds the first unknown word. -/
theorem collect_eq (text : Bytes) :
    collect (Scanner.ofInput text) =
      match (scan text).dropLast.find? (·.kind == .invalid) with
      | some word => .error (.unknownWord word.literal)
      | none => .ok ((scan text).dropLast.map resolve) := by
  obtain ⟨pieces, tail, splits⟩ := Splits.existence text
  rw [dropLast_scan_of_splits splits]
  exact collect_of_splits splits 0

theorem read_eq_unknownWord {text : Bytes} {word : Token}
    (found : (scan text).dropLast.find? (·.kind == .invalid) = some word) :
    read text = .error (.unknownWord word.literal) := by
  rw [read, collect_eq, found]
  rfl

theorem mapError_read (text : Bytes) :
    (read text).mapError CompileError.message = judge (scan text).dropLast := by
  cases found : (scan text).dropLast.find? (·.kind == .invalid) with
  | some word =>
      rw [read_eq_unknownWord found, judge, found]
      rfl
  | none =>
      rw [read, collect_eq, found]
      exact mapError_validate found

/-- An unknown word that begins before a blank is found whatever follows the blank. -/
theorem find?_append_blank {head : Bytes} {blank : UInt8} (separates : isBlank blank = true)
    {rest : Bytes} {word : Token}
    (first : (scan (head ++ blank :: rest)).dropLast.find? (·.kind == .invalid) = some word)
    (before : word.column ≤ head.length) (other : Bytes) :
    (scan (head ++ blank :: other)).dropLast.find? (·.kind == .invalid) = some word := by
  obtain ⟨later, tokens, columns⟩ := exists_dropLast_scan_append_blank separates head rest
  obtain ⟨others, otherTokens, _⟩ := exists_dropLast_scan_append_blank separates head other
  -- Tokens behind the blank have larger columns, so the word was found before it.
  rw [tokens, List.find?_append] at first
  rw [otherTokens, List.find?_append]
  cases found : (scan head).dropLast.find? (·.kind == .invalid) with
  | some unknown => simpa [found] using first
  | none =>
      rw [found, Option.none_or] at first
      have behind := columns word (List.mem_of_find?_eq_some first)
      omega

/-- A text is read as its scanned tokens are judged.  Texts that agree up to a blank behind their
first unknown word have the same fault. -/
theorem reading_judges_scanned_tokens (text : Bytes) :
    scan text = (scan text).dropLast ++ [⟨.endOfInput, [], text.length + 1⟩] ∧
    (∀ token ∈ (scan text).dropLast, token.kind ≠ .endOfInput) ∧
    (read text).mapError CompileError.message = judge (scan text).dropLast ∧
    (read text).mapError CompileError.report =
      (judge (scan text).dropLast).mapError Bytes.untilNul ∧
    ∀ head blank rest other word, text = head ++ blank :: rest → isBlank blank = true →
      (scan text).dropLast.find? (·.kind == .invalid) = some word → word.column ≤ head.length →
      ∃ error, read text = .error error ∧ read (head ++ blank :: other) = .error error := by
  obtain ⟨pieces, tail, splits⟩ := Splits.existence text
  have tokens := dropLast_scan_of_splits splits
  refine ⟨?_, ?_, mapError_read text, ?_, ?_⟩
  · rw [tokens]
    have drained := Scanner.drain_of_splits splits 0
    rwa [Nat.zero_add] at drained
  · rw [tokens]
    exact splits.kind_ne_endOfInput 0
  · rw [← mapError_read]
    cases read text <;> rfl
  · rintro head blank rest other word rfl separates first before
    exact ⟨_, read_eq_unknownWord first,
      read_eq_unknownWord (find?_append_blank separates first before other)⟩

/-- The first unknown word counts, not the sign in front of it or the number at the end. -/
theorem reading_judges_scanned_tokens_unknown :
    ∃ error, read (ascii "+ 2x y 3") = .error error ∧ read (ascii "+ 2x +z") = .error error ∧
      error.message = ascii "Error parsing input: Unknown token 'x' at column 4" := by
  have first : (scan (ascii "+ 2x y 3")).dropLast.find? (·.kind == .invalid) =
      some ⟨.invalid, ascii "Unknown token 'x' at column 4", 4⟩ := by
    decide +kernel
  obtain ⟨_, _, judged, _, shared⟩ := reading_judges_scanned_tokens (ascii "+ 2x y 3")
  obtain ⟨error, read, readToo⟩ :=
    shared (ascii "+ 2x") Ascii.space (ascii "y 3") (ascii "+z") _ rfl (by decide) first (by decide)
  refine ⟨error, read, readToo, ?_⟩
  rw [read, judge, first] at judged
  exact Except.error.inj judged

/-! Every fault is said in one line. -/

theorem newline_notMem_ofNat (number : Nat) : Ascii.newline ∉ Bytes.ofNat number := fun member =>
  absurd (Bytes.isDigit_of_mem_ofNat member) (by decide)

theorem newline_notMem_literal {text : Bytes} {token : Token}
    (member : token ∈ (scan text).dropLast) : Ascii.newline ∉ token.literal := by
  obtain ⟨pieces, tail, splits⟩ := Splits.existence text
  rw [dropLast_scan_of_splits splits] at member
  generalize 0 = offset at member
  induction splits generalizing offset with
  | done _ => cases member
  | @piece gap lexeme rest tail shape pieces _ fits _ induction =>
      rcases List.mem_cons.mp member with rfl | member
      · have lexemeLine : Ascii.newline ∉ lexeme := fun inside =>
          absurd (Shape.isBlank_eq_false_of_fits fits _ inside) (by decide)
        have words : Ascii.newline ∉ ascii "Unknown token '" ∧
            Ascii.newline ∉ ascii "' at column " := by decide
        unfold Piece.token
        split
        · exact lexemeLine
        · simp [lexemeLine, words, newline_notMem_ofNat]
      · exact induction _ member

theorem newline_notMem_decimal {token : Token} (line : Ascii.newline ∉ token.literal) :
    Ascii.newline ∉ (decimal token).literal := by
  have constants : Ascii.newline ∉ ascii "2.718282" ∧ Ascii.newline ∉ ascii "3.141593" := by
    decide
  unfold decimal
  split
  · exact constants.1
  · split
    · exact constants.2
    · exact line

theorem newline_notMem_judge {tokens : List Token}
    (lines : ∀ token ∈ tokens, Ascii.newline ∉ token.literal) {text : Bytes}
    (refused : judge tokens = .error text) : Ascii.newline ∉ text := by
  have decimals : ∀ token ∈ tokens.map decimal, Ascii.newline ∉ token.literal := by
    intro token member
    obtain ⟨source, sourceMember, rfl⟩ := List.mem_map.mp member
    exact newline_notMem_decimal (lines source sourceMember)
  have words : ∀ word ∈ ["Error parsing input: ", "Error (column ",
      "): the program must begin with a number, found '", "'",
      "): the program ends with the number '", "', which no operator consumes",
      "The input expression was empty"], Ascii.newline ∉ ascii word := by
    decide +kernel
  simp only [List.forall_mem_cons] at words
  unfold judge at refused
  split at refused
  · rename_i word found
    cases refused
    simp [words, lines word (List.mem_of_find?_eq_some found)]
  · split at refused
    · rename_i first last begins ends
      split at refused
      · cases refused
        simp [words, newline_notMem_ofNat, decimals first (List.mem_of_head? begins)]
      · split at refused <;> cases refused
        simp [words, newline_notMem_ofNat, decimals last (List.mem_of_getLast? ends)]
    · cases refused
      simp [words]

theorem newline_notMem_report {text : Bytes} {error : CompileError}
    (refused : read text = .error error) : Ascii.newline ∉ error.report := by
  have judged := mapError_read text
  rw [refused] at judged
  have line := newline_notMem_judge (fun _ => newline_notMem_literal) judged.symm
  exact fun member => line (List.takeWhile_subset _ member)

end Rpn.Expression
