import Toolpath.Proofs.Line.Comments
import Toolpath.Proofs.Motion.Still
import Toolpath.Proofs.Token.Words

/-! Messages: lines whose code takes the rest of them as text. Whatever the text says, such a line
is its number and its code. -/

namespace Toolpath

open Text (isBlank isBlankLine trimStart isDecimalDigit)

variable {letter c : Char} {number front ds pad rest : List Char} {words : List Word}
  {tokens : List Token}

namespace Command

lemma digits?_whole (h : Numeral.Whole ds) (hrest : rest.takeWhile isDecimalDigit = []) :
    digits? (ds ++ rest) = some (ds, rest) := by
  have hdigits : (ds ++ rest).takeWhile isDecimalDigit = ds := by
    have hall (d : Char) (hd : d ∈ ds) := Numeral.isDecimalDigit_digit (h.isDigit d hd)
    rw [List.takeWhile_append_of_pos hall, hrest, List.append_nil]
  simp [digits?, h.trimStart_append, hdigits, h.ne_nil]

lemma takeWhile_blank (hc : isBlank c) (cs : List Char) : (c :: cs).takeWhile isDecimalDigit = [] :=
  List.takeWhile_cons_of_neg (Text.not_isDecimalDigit_blank hc)

structure Precedes (front : List Char) (tokens : List Token) : Prop where
  unstarred : '*' ∉ front
  skipped (cs : List Char) : skipLineNumber (trimStart (front ++ 'M' :: cs)) = 'M' :: cs
  split (cs : List Char) : Token.split (front.filter (!isBlank ·) ++ 'M' :: cs) =
    tokens ++ Token.split ('M' :: cs)
  finite : ∀ t ∈ tokens, t.finite?.isSome

lemma precedes_nothing : Precedes [] [] where
  unstarred := List.not_mem_nil
  skipped cs := by
    have hcode : ('M' :: cs).head? ≠ some 'N' := by simp
    exact skipLineNumber_of_head hcode
  split _ := rfl
  finite _ ht := absurd ht List.not_mem_nil

lemma precedes_number (h : Numeral.Whole ds) (hpad : isBlankLine pad) :
    Precedes ('N' :: (ds ++ pad)) [⟨'N', ds⟩] where
  unstarred := by
    simp [h.notMem (c := '*') (by decide), Text.notMem_pad hpad (d := '*') (by decide)]
  skipped cs := by
    have hcode : trimStart (pad ++ 'M' :: cs) = 'M' :: cs := Text.trimStart_pad_append hpad _
    have hrest : (pad ++ 'M' :: cs).takeWhile isDecimalDigit = [] := by
      cases pad with
      | nil => rfl
      | cons c pad => exact takeWhile_blank (Text.isBlank_of_mem hpad c List.mem_cons_self) _
    have hstart : trimStart ('N' :: (ds ++ pad) ++ 'M' :: cs) =
        'N' :: (ds ++ (pad ++ 'M' :: cs)) := by
      rw [List.cons_append, List.append_assoc]
      rfl
    rw [hstart, skipLineNumber, digits?_whole h hrest]
    exact hcode
  split cs := by
    have hfilter : ('N' :: (ds ++ pad)).filter (!isBlank ·) = 'N' :: ds := by
      rw [List.filter_cons_of_pos (by decide), List.filter_append, h.filter_eq,
        Text.filter_pad hpad, List.append_nil]
    have hnext : (Token.scan ('M' :: cs)).1 = [] := by rw [Token.scan_letter (by decide)]
    rw [hfilter, Token.split_whole (by decide) h hnext]
    rfl
  finite := by
    simp [Token.finite?_whole h]

lemma head?_message (h : Precedes front tokens) (hds : Numeral.Whole ds) (hc : isBlank c)
    (rest : List Char) :
    head? (front ++ 'M' :: (ds ++ c :: rest)) = some ⟨ds, c :: rest⟩ := by
  rw [head?_eq, h.skipped, leading?, digits?_whole hds (takeWhile_blank hc rest)]
  have hpoint : (c :: rest).head? ≠ some '.' := by
    simpa using Text.ne_of_isBlank hc (d := '.') (by decide)
  exact congrArg some (withFraction_of_head hpoint)

lemma upperLine_message (h : Precedes front tokens) (hnumber : Text.upper number = front)
    (hletter : Text.upperChar letter = ['M']) (hds : Numeral.Whole ds) (hc : isBlank c)
    (cs : List Char) :
    ∃ rest, upperLine (number ++ letter :: (ds ++ c :: cs)) =
      front ++ 'M' :: (ds ++ c :: rest) := by
  have hupper : Text.upper (number ++ letter :: (ds ++ c :: cs)) =
      (front ++ 'M' :: (ds ++ [c])) ++ Text.upper cs := by
    rw [Text.upper_append, hnumber, Text.upper, List.flatMap_cons, hletter, ← Text.upper,
      Text.upper_append, hds.upper_eq, Text.upper, List.flatMap_cons, Text.upperChar_blank hc,
      ← Text.upper]
    simp
  have hunstarred : ∀ d ∈ front ++ 'M' :: (ds ++ [c]), d != '*' := by
    intro d hd
    apply bne_iff_ne.mpr
    rintro rfl
    have hdigit : '*' ∉ ds := hds.notMem (by decide)
    have hblank : '*' ≠ c := (Text.ne_of_isBlank hc (by decide)).symm
    simp [h.unstarred, hdigit, hblank] at hd
  refine ⟨(Text.upper cs).takeWhile (· != '*'), ?_⟩
  rw [upperLine, hupper, List.takeWhile_append_of_pos hunstarred]
  simp

lemma text_message (h : Precedes front tokens) (hnumber : Text.upper number = front)
    (hletter : Text.upperChar letter = ['M']) (hds : Numeral.Whole ds) (hc : isBlank c)
    (hcode : ∀ rest, Head.code ⟨ds, rest⟩ ∈ textCodes) (cs : List Char) :
    text (number ++ letter :: (ds ++ c :: cs)) = front ++ 'M' :: ds := by
  obtain ⟨rest, hupper⟩ := upperLine_message h hnumber hletter hds hc cs
  have hhead := head?_message h hds hc rest
  have hshape : front ++ 'M' :: (ds ++ c :: rest) = (front ++ 'M' :: ds) ++ c :: rest := by simp
  have harguments : Head.arguments ⟨ds, c :: rest⟩ = [] :=
    if_pos (List.contains_iff_mem.mpr (hcode (c :: rest)))
  rw [hshape] at hhead
  have hcut := cut_of_head? (h := ⟨ds, c :: rest⟩) hhead
  rw [harguments, List.append_nil] at hcut
  rw [← hcut, ← hshape, ← hupper]
  rfl

end Command

def messageCodes : List Nat := [23, 28, 30, 32, 117, 118]

section Codes

variable {code : Nat} (h : code ∈ messageCodes)

include h

lemma whole_messageCode : Numeral.Whole (Nat.toDigits 10 code) where
  digits := by
    have hall : ∀ code ∈ messageCodes, (Nat.toDigits 10 code).all Numeral.isDigit := by decide
    exact hall code h
  ne_nil := Nat.toDigits_ne_nil
  length_le := by
    have hall : ∀ code ∈ messageCodes, (Nat.toDigits 10 code).length ≤ 18 := by decide
    exact hall code h

lemma scaledCode_messageCode : scaledCode (Float.ofNat code) ∈ Command.textCodes := by
  have hall : ∀ code ∈ messageCodes, scaledCode (Float.ofNat code) ∈ Command.textCodes := by
    decide +kernel
  exact hall code h

lemma headCode_messageCode (rest : List Char) :
    Command.Head.code ⟨Nat.toDigits 10 code, rest⟩ ∈ Command.textCodes := by
  have hvalue : Numeral.digitsValue 0 (Nat.toDigits 10 code) = code := Nat.ofDigitChars_ten_toDigits
  rw [Command.Head.code, (whole_messageCode h).float?_eq, hvalue]
  exact scaledCode_messageCode h

lemma word_messageCode (letter : Char) :
    Token.word ⟨letter, Nat.toDigits 10 code⟩ = ⟨letter, Float.ofNat code⟩ := by
  have hvalue : Numeral.digitsValue 0 (Nat.toDigits 10 code) = code := Nat.ofDigitChars_ten_toDigits
  rw [Token.word_whole (whole_messageCode h), hvalue]

end Codes

inductive Numbering : List Char → List Word → Prop
  | nothing : Numbering [] []
  | number (letter : Char) (ds pad : List Char) : letter = 'N' ∨ letter = 'n' → Numeral.Whole ds →
      isBlankLine pad →
      Numbering (letter :: (ds ++ pad)) [⟨'N', Float.ofNat (Numeral.digitsValue 0 ds)⟩]

lemma Numbering.precedes (h : Numbering number words) :
    ∃ tokens, Command.Precedes (Text.upper number) tokens ∧ tokens.map Token.word = words := by
  cases h with
  | nothing => exact ⟨[], Command.precedes_nothing, rfl⟩
  | number letter ds pad hletter hds hpad =>
    have hcase : Text.upperChar letter = ['N'] := by rcases hletter with rfl | rfl <;> decide
    have hupper : Text.upper (letter :: (ds ++ pad)) = 'N' :: (ds ++ pad) := by
      rw [Text.upper, List.flatMap_cons, hcase, ← Text.upper, Text.upper_append, hds.upper_eq,
        Text.upper_pad hpad]
      rfl
    rw [hupper]
    refine ⟨_, Command.precedes_number hds hpad, ?_⟩
    rw [List.map_singleton, Token.word_whole hds]

lemma Instruction.tokenize_message {code : Nat} (hnumber : Numbering number words)
    (hletter : letter = 'M' ∨ letter = 'm') (hcode : code ∈ messageCodes) (hc : isBlank c)
    (cs : List Char) :
    tokenize (number ++ letter :: (Nat.toDigits 10 code ++ c :: cs)) =
      { words := words ++ [⟨'M', Float.ofNat code⟩] } := by
  obtain ⟨tokens, hprecedes, hwords⟩ := hnumber.precedes
  have hds := whole_messageCode hcode
  have hupper : Text.upperChar letter = ['M'] := by rcases hletter with rfl | rfl <;> decide
  have htext := Command.text_message hprecedes rfl hupper hds hc (headCode_messageCode hcode) cs
  have hfilter : ('M' :: Nat.toDigits 10 code).filter (!isBlank ·) =
      'M' :: Nat.toDigits 10 code := by
    rw [List.filter_cons_of_pos (by decide), hds.filter_eq]
  have hlast : Token.split ('M' :: Nat.toDigits 10 code) = [⟨'M', Nat.toDigits 10 code⟩] := by
    have hsplit : Token.split ('M' :: Nat.toDigits 10 code ++ []) = [⟨'M', Nat.toDigits 10 code⟩] :=
      Token.split_whole (by decide) hds rfl
    rwa [List.append_nil] at hsplit
  rw [tokenize, htext, List.filter_append, hfilter, hprecedes.split, hlast, ofTokens_finite]
  · rw [List.map_append, hwords, List.map_singleton, word_messageCode hcode]
  · intro t ht
    rcases List.mem_append.mp ht with ht | ht
    · exact hprecedes.finite t ht
    · rw [List.mem_singleton.mp ht, Token.finite?_whole hds]
      rfl

namespace Machine

variable {i : Instruction}

lemma execute_message (m : Machine) (hletters : ∀ w ∈ i.words, w.letter ∈ ['N', 'M'])
    (hne : i.codes 'M' ≠ []) (hcodes : ∀ code ∈ i.codes 'M', code ∈ Command.textCodes)
    (stamp : Stamp) : m.execute i stamp = (m, []) := by
  have hnot {letter : Char} (h : letter ∉ ['N', 'M']) : ¬ i.has letter :=
    Instruction.not_has hletters h
  have hg : i.codes 'G' = [] := Instruction.codes_eq_nil.mpr (hnot (by decide))
  have hfeed : i.get? 'F' = none := Instruction.get?_eq_none.mpr (hnot (by decide))
  have htool : i.get? 'T' = none := Instruction.get?_eq_none.mpr (hnot (by decide))
  have hidle : (i.codes 'M').foldl (applyM i) m = m := by
    refine List.foldlRecOn (motive := fun n : Machine => n = m) _ _ rfl fun n hn code hcode => ?_
    rw [hn]
    have htext := hcodes code hcode
    simp only [Command.textCodes, List.mem_cons, List.not_mem_nil, or_false] at htext
    rcases htext with rfl | rfl | rfl | rfl | rfl | rfl <;> rfl
  have hprepare : m.prepare i stamp = m := by
    simp only [prepare, hfeed, htool, hg, List.foldl_nil, List.filter_nil, List.map_nil]
    exact hidle
  have hmotion : m.motion? i = none := by simp [motion?, hg, hne]
  simp only [execute, hprepare, hmotion, hg]
  rfl

lemma interpret_message (m : Machine) {line : List Char} (hnoted : isNoted line) {x : Float}
    (hwords : instruction line = { words := words ++ [⟨'M', x⟩] })
    (hnumber : ∀ w ∈ words, w.letter = 'N') (hx : scaledCode x ∈ Command.textCodes)
    (stamp : Stamp) : m.interpret line stamp = (m, { isInstruction := true }) := by
  have hempty : (instruction line).isEmpty = false := by simp [hwords, Instruction.isEmpty]
  have hread : m.recordAll (malformed line stamp) = m := by rw [malformed, hwords]; rfl
  have hletters : ∀ w ∈ (instruction line).words, w.letter ∈ ['N', 'M'] := by
    intro w hw
    rw [hwords] at hw
    rcases List.mem_append.mp hw with hw | hw
    · simp [hnumber w hw]
    · simp [List.mem_singleton.mp hw]
  have hcodes : (instruction line).codes 'M' = [scaledCode x] := by
    have hothers : words.filter (·.letter == 'M') = [] := by
      apply List.filter_eq_nil_iff.mpr
      intro w hw
      simp [hnumber w hw]
    simp [hwords, Instruction.codes, List.filter_append, hothers]
  have hexecute := m.execute_message hletters (by simp [hcodes]) (by simpa [hcodes] using hx) stamp
  simp [interpret_noted m hnoted, hempty, hread, hexecute]

end Machine

lemma isPlain_whole (h : Numeral.Whole ds) : ds.all isPlain :=
  List.all_eq_true.mpr fun d hd =>
    Numeral.forall_digit (P := fun d => isPlain d) (by decide) (h.isDigit d hd)

namespace Numbering

lemma isPlain (h : Numbering number words) : number.all isPlain := by
  cases h with
  | nothing => rfl
  | number letter ds pad hletter hds hpad =>
    have hcase : Toolpath.isPlain letter := by rcases hletter with rfl | rfl <;> decide
    simp [hcase, List.all_append, isPlain_whole hds, isPlain_pad hpad]

lemma letter_eq (h : Numbering number words) {w : Word} (hw : w ∈ words) : w.letter = 'N' := by
  cases h with
  | nothing => cases hw
  | number => rw [List.mem_singleton.mp hw]

lemma isNoted (h : Numbering number words) (hletter : letter = 'M' ∨ letter = 'm')
    (cs : List Char) : Machine.isNoted (number ++ letter :: cs) := by
  apply Machine.isNoted_iff.mpr
  cases h with
  | nothing => exact ⟨letter, by rcases hletter with rfl | rfl <;> exact ⟨rfl, by decide⟩⟩
  | number letter' ds pad hnumber =>
    exact ⟨letter', by rcases hnumber with rfl | rfl <;> exact ⟨rfl, by decide⟩⟩

end Numbering

theorem Run.feed_message (r : Run) {number gap : List Char} {words : List Word} {letter : Char}
    {code : Nat} (hnumber : Numbering number words) (hletter : letter = 'M' ∨ letter = 'm')
    (hcode : code ∈ messageCodes) (hgap : Text.isBlankLine gap) (hne : gap ≠ []) (text : List Char)
    (stamp : Stamp) :
    let line := number ++ letter :: (Nat.toDigits 10 code ++ (gap ++ text))
    Instruction.tokenize (stripComments line) = { words := words ++ [⟨'M', Float.ofNat code⟩] } ∧
      r.machine.interpret line stamp = (r.machine, { isInstruction := true }) ∧
      r.feed line stamp = ⟨r.machine, r.store.noteInstruction stamp.offset⟩ := by
  intro line
  have hwords : Instruction.tokenize (stripComments line) =
      { words := words ++ [⟨'M', Float.ofNat code⟩] } := by
    cases gap with
    | nil => exact absurd rfl hne
    | cons c gap =>
      have hfront : (number ++ letter :: (Nat.toDigits 10 code ++ (c :: gap))).all isPlain := by
        have hcase : isPlain letter := by rcases hletter with rfl | rfl <;> decide
        rw [List.all_append, List.all_cons, List.all_append, hnumber.isPlain, hcase,
          isPlain_whole (whole_messageCode hcode), isPlain_pad hgap]
        rfl
      have hline : line = (number ++ letter :: (Nat.toDigits 10 code ++ (c :: gap))) ++ text := by
        simp [line]
      have hc : isBlank c := Text.isBlank_of_mem hgap c List.mem_cons_self
      have htokens :=
        Instruction.tokenize_message hnumber hletter hcode hc (gap ++ stripComments text)
      rw [hline, stripComments_append hfront, ← htokens]
      simp
  have hinterpret : r.machine.interpret line stamp = (r.machine, { isInstruction := true }) := by
    have hnoted : Machine.isNoted line := hnumber.isNoted hletter _
    apply Machine.interpret_message r.machine hnoted _ (fun w hw => hnumber.letter_eq hw)
      (scaledCode_messageCode hcode)
    rw [Machine.instruction_eq, hwords]
  refine ⟨hwords, hinterpret, ?_⟩
  rw [feed, hinterpret]
  rfl

theorem Run.feed_message_instructions :
    let m : Machine := {
      parsing := {}
      coloring := {}
      resolution := {}
      tools := Settings.toolTable {}
      classifier := { style := .generic }
      state := .initial true ((Settings.toolTable {}).color 0) none }
    let r := (⟨m, {}⟩ : Run).feed "G1 X3 Y4 E1".toList ⟨1, 12⟩
    let line := "n12 m117\tG28 (ﬃ;G1 Z2) X9 *71".toList
    m.Reachable {} ∧ r.store.size = 1 ∧
      Instruction.tokenize (stripComments line) = { words := [⟨'N', 12.0⟩, ⟨'M', 117.0⟩] } ∧
      (r.feed line ⟨2, 44⟩).machine = r.machine ∧ (r.feed line ⟨2, 44⟩).store.size = 1 := by
  intro m r line
  have hm : Machine.ofTools {} (Settings.toolTable {}) .generic = .ok m := by rfl
  have hsize : r.store.segments.size = 1 := by decide +kernel
  have hnumber : Numbering "n12 ".toList [⟨'N', Float.ofNat 12⟩] :=
    Numbering.number 'n' "12".toList " ".toList (Or.inr rfl) ⟨by decide, by decide, by decide⟩
      (by decide)
  have hgap : Text.isBlankLine "\t".toList := by decide
  have hvalues : Float.ofNat 12 = 12.0 ∧ Float.ofNat 117 = 117.0 := by decide +kernel
  have hletter : 'm' = 'M' ∨ 'm' = 'm' := Or.inr rfl
  have hcode : 117 ∈ messageCodes := by decide
  obtain ⟨hwords, -, hfeed⟩ := r.feed_message hnumber hletter hcode hgap (by decide)
    "G28 (ﬃ;G1 Z2) X9 *71".toList ⟨2, 44⟩
  have hline : "n12 ".toList ++ 'm' :: (Nat.toDigits 10 117 ++
      ("\t".toList ++ "G28 (ﬃ;G1 Z2) X9 *71".toList)) = line := by decide
  rw [hline] at hwords hfeed
  rw [hvalues.1, hvalues.2] at hwords
  have hnote (st : Store) (offset : Nat) : (st.noteInstruction offset).size = st.size := rfl
  rw [hfeed]
  refine ⟨.start hm, hsize, hwords, rfl, ?_⟩
  rw [hnote, Store.size, hsize]

end Toolpath
