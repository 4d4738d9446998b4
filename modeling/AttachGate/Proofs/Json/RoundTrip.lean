import AttachGate.Json.Document
import AttachGate.Proofs.Json.Strings
import AttachGate.Proofs.Value.Members
import Mathlib.Data.List.TakeDrop

/-!
# Values survive writing

A value without fractions is read as it was written if no text in it holds a
surrogate pair in two halves, no object in it names a member twice, its integers are
short enough and its brackets are not nested too deep.
-/

namespace AttachGate

namespace Json

abbrev comma : CodePoint := CodePoint.ofChar ','
abbrev space : CodePoint := CodePoint.ofChar ' '
abbrev openingBracket : CodePoint := CodePoint.ofChar '['
abbrev closingBracket : CodePoint := CodePoint.ofChar ']'
abbrev openingBrace : CodePoint := CodePoint.ofChar '\x7b'
abbrev closingBrace : CodePoint := CodePoint.ofChar '\x7d'
abbrev colon : CodePoint := CodePoint.ofChar ':'

/-- What can stand behind a value in a document that has been written: nothing, or a
mark that ends the value. -/
def Ends (rest : Text) : Prop :=
  ∀ c ∈ rest.head?, c = comma ∨ c = closingBracket ∨ c = closingBrace

theorem ends_comma (rest : Text) : Ends (comma :: rest) := by
  intro c hc
  exact .inl (Option.some.inj hc).symm

theorem ends_closingBracket (rest : Text) : Ends (closingBracket :: rest) := by
  intro c hc
  exact .inr (.inl (Option.some.inj hc).symm)

theorem ends_closingBrace (rest : Text) : Ends (closingBrace :: rest) := by
  intro c hc
  exact .inr (.inr (Option.some.inj hc).symm)

/-! ## Integers -/

theorem readWhole_ofNat (n : Nat) {rest : Text}
    (hrest : ∀ c ∈ rest.head?, c.isAsciiDigit = false) :
    readWhole (Text.ofNat n ++ rest) = (Text.ofNat n, rest) := by
  by_cases hn : n = 0
  · subst hn
    rfl
  · have hfront := Text.head?_ofNat (by omega : 0 < n)
    have hdigits : ∀ c ∈ Text.ofNat n, c.isAsciiDigit = true :=
      fun c hc => Text.isAsciiDigit_of_mem_ofNat hc
    have hspan : (Text.ofNat n ++ rest).span CodePoint.isAsciiDigit = (Text.ofNat n, rest) := by
      rw [List.span_eq_takeWhile_dropWhile, List.takeWhile_append_of_pos hdigits,
        List.dropWhile_append_of_pos hdigits]
      cases rest with
      | nil => simp
      | cons c rest => simp [hrest c rfl]
    obtain ⟨d, digits, hcons, _⟩ := Text.exists_ofNat_eq_cons n
    rw [hcons] at hfront hspan ⊢
    have hzero : d ≠ CodePoint.ofChar '0' := by
      rintro rfl
      exact hfront rfl
    simp only [readWhole, List.cons_append, hzero, if_false]
    exact hspan

theorem readFraction_of_ends {rest : Text} (hrest : Ends rest) :
    readFraction rest = (none, rest) := by
  cases rest with
  | nil => rfl
  | cons c rest =>
      have hpoint : c ≠ CodePoint.ofChar '.' := by
        rcases hrest c rfl with rfl | rfl | rfl <;> decide
      simp [readFraction, hpoint]

theorem readExponent_of_ends {rest : Text} (hrest : Ends rest) :
    readExponent rest = (none, rest) := by
  cases rest with
  | nil => rfl
  | cons c rest =>
      have hletter : c ≠ CodePoint.ofChar 'e' ∧ c ≠ CodePoint.ofChar 'E' := by
        rcases hrest c rfl with rfl | rfl | rfl <;> decide
      simp [readExponent, hletter]

/-- No word has a digit in it, and none is a single letter. -/
theorem words_facts : ∀ entry ∈ words,
    2 ≤ entry.1.length ∧ entry.1.all (fun c => !c.isAsciiDigit) = true := by
  decide

/-- A text with a digit at its start, perhaps behind a sign, starts with no word. -/
theorem readWord?_of_digit {t : Text} {d : CodePoint} (hmem : d ∈ t.take 2)
    (hd : d.isAsciiDigit = true) : readWord? t = none := by
  rw [readWord?, Option.map_eq_none_iff, List.find?_eq_none]
  intro entry hentry hbegins
  obtain ⟨hlong, hdigitless⟩ := words_facts entry hentry
  obtain ⟨more, rfl⟩ := List.isPrefixOf_iff_prefix.mp hbegins
  rw [List.take_append_of_le_length hlong] at hmem
  have hno := List.all_eq_true.mp hdigitless d (List.mem_of_mem_take hmem)
  rw [hd] at hno
  cases hno

theorem length_ofNat_le {n : Int} (hn : Value.integerFits n = true) :
    (Text.ofNat n.natAbs).length ≤ maxIntegerDigits := by
  have hpositive : 0 < maxIntegerDigits := by decide
  unfold Value.integerFits at hn
  generalize maxIntegerDigits = digits at *
  exact (Text.length_ofNat_le_iff hpositive).mpr (of_decide_eq_true hn)

theorem readNumber_ofInt {n : Int} (hn : Value.integerFits n = true) {rest : Text}
    (hrest : Ends rest) : readNumber (Text.ofInt n ++ rest) = .ok (.int n, rest) := by
  have hdigits : ∀ m, m = n.natAbs → (Text.ofNat m).isEmpty = false ∧
      ¬ maxIntegerDigits < (Text.ofNat m).length ∧
      readWhole (Text.ofNat m ++ rest) = (Text.ofNat m, rest) := by
    intro m hm
    refine ⟨by simp [Text.ofNat_ne_nil], ?_, readWhole_ofNat m ?_⟩
    · rw [Nat.not_lt, hm]
      exact length_ofNat_le hn
    · intro c hc
      rcases hrest c hc with rfl | rfl | rfl <;> decide
  cases n with
  | ofNat m =>
      obtain ⟨hnonempty, hshort, hwhole⟩ := hdigits m rfl
      -- the text starts with a digit, so no sign is taken off it
      obtain ⟨d, digits, hm, hd⟩ := Text.exists_ofNat_eq_cons m
      have hsign : d ≠ CodePoint.ofChar '-' := by
        rintro rfl
        cases hd
      have hcons : Text.ofNat m ++ rest = d :: (digits ++ rest) := by rw [hm, List.cons_append]
      rw [Text.ofInt, hcons]
      simp only [readNumber, hsign, if_false]
      rw [← hcons, hwhole]
      simp [hnonempty, hshort, readFraction_of_ends hrest, readExponent_of_ends hrest,
        Text.valueOfDigits_ofNat]
  | negSucc m =>
      obtain ⟨hnonempty, hshort, hwhole⟩ := hdigits (m + 1) rfl
      have hcons : Text.ofInt (.negSucc m) ++ rest =
          CodePoint.ofChar '-' :: (Text.ofNat (m + 1) ++ rest) := rfl
      rw [hcons]
      simp only [readNumber, if_true, hwhole]
      simp [hnonempty, hshort, readFraction_of_ends hrest, readExponent_of_ends hrest,
        Text.valueOfDigits_ofNat]
      omega

/-! ## Values -/

/-- A value that survives being written, its brackets nested at most `room` deep. -/
inductive Plain : Nat → Value → Prop
  | null (room : Nat) : Plain room .null
  | bool (room : Nat) (b : Bool) : Plain room (.bool b)
  | int (room : Nat) {n : Int} (hn : Value.integerFits n = true) : Plain room (.int n)
  | text (room : Nat) {t : Text} (ht : t.IsWhole) : Plain room (.text t)
  | array {room : Nat} {items : List Value} (hitems : ∀ v ∈ items, Plain room v) :
    Plain (room + 1) (.array items)
  | object {room : Nat} {members : Members} (hdistinct : (members.map Prod.fst).Nodup)
    (hkeys : ∀ member ∈ members, member.1.IsWhole)
    (hvalues : ∀ member ∈ members, Plain room member.2) : Plain (room + 1) (.object members)

/-- How a written value is read in front of anything that can stand behind it. -/
structure Legible (room : Nat) (v : Value) : Prop where
  starts : ∃ c t, write v = c :: t ∧ isSpace c = false ∧ c ≠ closingBracket
  ascii : (write v).IsAscii
  read : ∀ {fuel : Nat} {rest : Text}, 2 * (write v).length ≤ fuel → Ends rest →
    readValue fuel room (write v ++ rest) = .ok (v, rest)

theorem skipSpace_of_not {c : CodePoint} (hc : isSpace c = false) (t : Text) :
    skipSpace (c :: t) = c :: t := by
  simp [skipSpace, hc]

theorem Legible.skipSpace_write {room : Nat} {v : Value} (hv : Legible room v) (rest : Text) :
    skipSpace (write v ++ rest) = write v ++ rest := by
  obtain ⟨c, t, hwrite, hspace, _⟩ := hv.starts
  rw [hwrite]
  exact skipSpace_of_not hspace _

/-! ### Scalars -/

/-- A code point at which a word or a number may start. -/
def isBare (c : CodePoint) : Bool :=
  !isSpace c && !decide (c ∈ [quote, openingBrace, openingBracket, closingBracket])

theorem isBare_of_digit {d : CodePoint} (hd : d.isAsciiDigit = true) : isBare d = true := by
  have hdigit : ∀ k < 10, isBare (CodePoint.ofDigit k) = true := by decide
  simp only [CodePoint.isAsciiDigit, CodePoint.asciiDigit?, Option.isSome_ite] at hd
  have hvalue : CodePoint.ofDigit (d.val - 0x30) = d := by
    rw [CodePoint.ofDigit, Nat.add_sub_cancel' hd.1, CodePoint.ofNat_val]
  rw [← hvalue]
  exact hdigit _ (by omega)

theorem legible_of_bare {room : Nat} {v : Value} {c : CodePoint} {t : Text}
    (hwrite : write v = c :: t) (hbare : isBare c = true) (hascii : Text.IsAscii (c :: t))
    (hread : ∀ rest, Ends rest →
      (readWord? (c :: t ++ rest)).elim (readNumber (c :: t ++ rest)) .ok = .ok (v, rest)) :
    Legible room v := by
  simp only [isBare, Bool.and_eq_true, Bool.not_eq_true', decide_eq_false_iff_not, List.mem_cons,
    List.not_mem_nil, or_false, not_or] at hbare
  obtain ⟨hspace, hquote, hbrace, hbracket, hclosing⟩ := hbare
  constructor
  · exact ⟨c, t, hwrite, hspace, hclosing⟩
  · rw [hwrite]
    exact hascii
  · intro fuel rest hfuel hrest
    rw [hwrite] at hfuel ⊢
    cases fuel with
    | zero => simp at hfuel
    | succ fuel =>
        rw [← hread rest hrest, List.cons_append, readValue]
        simp only [hquote, hbrace, hbracket, if_false]
        cases readWord? (c :: (t ++ rest)) <;> rfl

theorem legible_null (room : Nat) : Legible room .null :=
  legible_of_bare rfl (by decide) (by decide) fun _ _ => rfl

theorem legible_bool (room : Nat) (b : Bool) : Legible room (.bool b) := by
  cases b with
  | false => exact legible_of_bare rfl (by decide) (by decide) fun _ _ => rfl
  | true => exact legible_of_bare rfl (by decide) (by decide) fun _ _ => rfl

theorem isAscii_ofInt (n : Int) : (Text.ofInt n).IsAscii := by
  have hdigits : ∀ m, (Text.ofNat m).IsAscii := by
    intro m c hc
    have hdigit := Text.isAsciiDigit_of_mem_ofNat hc
    simp only [CodePoint.isAsciiDigit, CodePoint.asciiDigit?, Option.isSome_ite] at hdigit
    omega
  cases n with
  | ofNat m => exact hdigits m
  | negSucc m => exact Text.isAscii_append.mpr ⟨by decide, hdigits (m + 1)⟩

theorem legible_int (room : Nat) {n : Int} (hn : Value.integerFits n = true) :
    Legible room (.int n) := by
  obtain ⟨d, digits, hdigits, hd⟩ := Text.exists_ofNat_eq_cons n.natAbs
  have hread : d ∈ (Text.ofInt n).take 2 → ∀ rest, Ends rest →
      (readWord? (Text.ofInt n ++ rest)).elim (readNumber (Text.ofInt n ++ rest)) .ok =
        .ok (.int n, rest) := by
    intro hmem rest hrest
    have hearly : d ∈ (Text.ofInt n ++ rest).take 2 := by
      rw [List.take_append]
      exact List.mem_append_left _ hmem
    rw [readWord?_of_digit hearly hd, Option.elim_none, readNumber_ofInt hn hrest]
  have hascii := isAscii_ofInt n
  cases n with
  | ofNat m =>
      have hwrite : Text.ofInt (.ofNat m) = d :: digits := hdigits
      rw [hwrite] at hread hascii
      exact legible_of_bare hwrite (isBare_of_digit hd) hascii (hread (.head _))
  | negSucc m =>
      have hwrite : Text.ofInt (.negSucc m) = CodePoint.ofChar '-' :: d :: digits := by
        rw [← hdigits]
        rfl
      rw [hwrite] at hread hascii
      exact legible_of_bare hwrite (by decide) hascii (hread (.tail _ (.head _)))

theorem writeString_append (t rest : Text) :
    writeString t ++ rest = quote :: (t.flatMap writePoint ++ quote :: rest) := by
  simp only [writeString, List.append_assoc]
  rfl

theorem legible_text (room : Nat) {t : Text} (ht : t.IsWhole) : Legible room (.text t) where
  starts := ⟨_, _, rfl, by decide, by decide⟩
  ascii := isAscii_writeString t
  read := by
    intro fuel rest hfuel _
    cases fuel with
    | zero => simp [write, writeString, Text.ofString] at hfuel
    | succ fuel =>
        rw [write, writeString_append, readValue]
        simp only [if_true, readString_written _ ht]
        rfl

/-! ### Arrays -/

theorem readItems_last {fuel room : Nat} {t rest : Text} {v : Value}
    (hread : readValue fuel room t = .ok (v, closingBracket :: rest)) :
    readItems (fuel + 1) room t = .ok ([v], rest) := by
  rw [readItems, hread]
  rfl

theorem readItems_next {fuel room : Nat} {t more rest : Text} {v : Value} {items : List Value}
    (hread : readValue fuel room t = .ok (v, comma :: space :: more))
    (hstart : skipSpace more = more) (hitems : readItems fuel room more = .ok (items, rest)) :
    readItems (fuel + 1) room t = .ok (v :: items, rest) := by
  have hnext : readItems (fuel + 1) room t =
      (readItems fuel room (skipSpace more)).bind fun r => .ok (v :: r.1, r.2) := by
    rw [readItems, hread]
    rfl
  rw [hnext, hstart, hitems]
  rfl

theorem writeItems_cons_cons (v w : Value) (items : List Value) :
    writeItems (v :: w :: items) = write v ++ comma :: space :: writeItems (w :: items) := by
  rw [writeItems]
  · simp only [List.append_assoc]
    rfl
  · exact List.cons_ne_nil w items

/-- Items start like the first of them. -/
theorem writeItems_starts {room : Nat} {v : Value} (hv : Legible room v) (items : List Value) :
    ∃ c t, writeItems (v :: items) = c :: t ∧ isSpace c = false ∧ c ≠ closingBracket := by
  obtain ⟨c, t, hwrite, hc⟩ := hv.starts
  cases items with
  | nil => exact ⟨c, t, hwrite, hc⟩
  | cons w items => exact ⟨c, _, by rw [writeItems_cons_cons, hwrite, List.cons_append], hc⟩

theorem skipSpace_writeItems {room : Nat} {v : Value} (hv : Legible room v) (items : List Value)
    (rest : Text) :
    skipSpace (writeItems (v :: items) ++ rest) = writeItems (v :: items) ++ rest := by
  obtain ⟨c, t, hwrite, hspace, _⟩ := writeItems_starts hv items
  rw [hwrite]
  exact skipSpace_of_not hspace _

theorem readItems_written {room : Nat} {v : Value} {items : List Value}
    (hitems : ∀ u ∈ v :: items, Legible room u) {fuel : Nat}
    (hfuel : 2 * (writeItems (v :: items)).length < fuel) (rest : Text) :
    readItems fuel room (writeItems (v :: items) ++ closingBracket :: rest) =
      .ok (v :: items, rest) := by
  have hv := hitems v (.head _)
  -- a further item costs one unit of fuel, and a comma and a blank were written for it
  induction items generalizing v fuel with
  | nil =>
      cases fuel with
      | zero => omega
      | succ fuel =>
          rw [writeItems] at hfuel ⊢
          exact readItems_last (hv.read (by omega) (ends_closingBracket rest))
  | cons w items ih =>
      have hw := hitems w (.tail _ (.head _))
      cases fuel with
      | zero => omega
      | succ fuel =>
          rw [writeItems_cons_cons] at hfuel ⊢
          simp only [List.length_append, List.length_cons] at hfuel
          simp only [List.append_assoc, List.cons_append]
          apply readItems_next (hv.read (by omega) (ends_comma _))
          · exact skipSpace_writeItems hw items _
          · exact ih (fun u hu => hitems u (.tail _ hu)) (by omega) hw

theorem isAscii_writeItems {room : Nat} {items : List Value}
    (hitems : ∀ v ∈ items, Legible room v) : (writeItems items).IsAscii := by
  induction items with
  | nil => simp [writeItems, Text.IsAscii]
  | cons v items ih =>
      have hv := (hitems v (.head _)).ascii
      cases items with
      | nil => exact hv
      | cons w items =>
          have hlater := ih fun u hu => hitems u (.tail _ hu)
          rw [writeItems_cons_cons]
          have hbetween : Text.IsAscii [comma, space] := by decide
          exact Text.isAscii_append.mpr ⟨hv, Text.isAscii_append.mpr ⟨hbetween, hlater⟩⟩

theorem readValue_items {fuel room : Nat} {c : CodePoint} {t rest : Text} {items : List Value}
    (hspace : isSpace c = false) (hc : c ≠ closingBracket)
    (hitems : readItems fuel room (c :: t) = .ok (items, rest)) :
    readValue (fuel + 1) (room + 1) (openingBracket :: c :: t) = .ok (.array items, rest) := by
  have hquote : openingBracket ≠ quote := by decide
  have hbrace : openingBracket ≠ openingBrace := by decide
  rw [readValue]
  simp only [hquote, hbrace, Nat.succ_ne_zero room, if_true, if_false, skipSpace_of_not hspace, hc,
    Nat.add_sub_cancel, hitems]
  rfl

theorem write_array (items : List Value) :
    write (.array items) = openingBracket :: (writeItems items ++ [closingBracket]) := rfl

theorem legible_array {room : Nat} {items : List Value} (hitems : ∀ v ∈ items, Legible room v) :
    Legible (room + 1) (.array items) where
  starts := ⟨_, _, rfl, by decide, by decide⟩
  ascii := by
    have hopening : Text.IsAscii [openingBracket] := by decide
    have hclosing : Text.IsAscii [closingBracket] := by decide
    exact Text.isAscii_append.mpr
      ⟨Text.isAscii_append.mpr ⟨hopening, isAscii_writeItems hitems⟩, hclosing⟩
  read := by
    intro fuel rest hfuel _
    rw [write_array] at hfuel ⊢
    simp only [List.length_append, List.length_cons, List.length_nil] at hfuel
    cases fuel with
    | zero => omega
    | succ fuel =>
        simp only [List.cons_append, List.append_assoc, List.nil_append]
        cases items with
        | nil =>
            rw [readValue]
            rfl
        | cons v items =>
            obtain ⟨c, t, hwrite, hspace, hc⟩ := writeItems_starts (hitems v (.head _)) items
            have hread : readItems fuel room (writeItems (v :: items) ++ closingBracket :: rest) =
                .ok (v :: items, rest) := readItems_written hitems (by omega) rest
            rw [hwrite, List.cons_append] at hread ⊢
            exact readValue_items hspace hc hread

/-! ### Objects -/

theorem readMembers_last {fuel room : Nat} {key t rest : Text} {v : Value} (hkey : key.IsWhole)
    (hstart : skipSpace t = t) (hread : readValue fuel room t = .ok (v, closingBrace :: rest)) :
    readMembers (fuel + 1) room (writeString key ++ colon :: space :: t) =
      .ok ([(key, v)], rest) := by
  have hvalue : skipSpace (space :: t) = t := hstart
  rw [writeString_append, readMembers]
  simp only [ne_eq, not_true, if_false, readString_written _ hkey, bind, Except.bind,
    skipSpace_of_not (show isSpace colon = false by decide), hvalue, hread]
  rfl

theorem readMembers_next {fuel room : Nat} {key t more rest : Text} {v : Value}
    {members : Members} (hkey : key.IsWhole) (hstart : skipSpace t = t)
    (hread : readValue fuel room t = .ok (v, comma :: space :: more))
    (hmore : skipSpace more = more) (hmembers : readMembers fuel room more = .ok (members, rest)) :
    readMembers (fuel + 1) room (writeString key ++ colon :: space :: t) =
      .ok ((key, v) :: members, rest) := by
  have hvalue : skipSpace (space :: t) = t := hstart
  have hnext : readMembers (fuel + 1) room (writeString key ++ colon :: space :: t) =
      (readMembers fuel room (skipSpace more)).bind fun r => .ok ((key, v) :: r.1, r.2) := by
    rw [writeString_append, readMembers]
    simp only [ne_eq, not_true, if_false, readString_written _ hkey, bind, Except.bind,
      skipSpace_of_not (show isSpace colon = false by decide), hvalue, hread]
    rfl
  rw [hnext, hmore, hmembers]
  rfl

theorem writeMembers_singleton (member : Text × Value) :
    writeMembers [member] = writeString member.1 ++ colon :: space :: write member.2 := by
  rw [writeMembers, List.append_assoc]
  rfl

theorem writeMembers_cons_cons (first second : Text × Value) (members : Members) :
    writeMembers (first :: second :: members) =
      writeString first.1 ++ colon :: space ::
        (write first.2 ++ comma :: space :: writeMembers (second :: members)) := by
  rw [writeMembers]
  · simp only [List.append_assoc]
    rfl
  · exact List.cons_ne_nil second members

/-- Members start with the quote of a key. -/
theorem writeMembers_starts (member : Text × Value) (members : Members) :
    ∃ t, writeMembers (member :: members) = quote :: t := by
  cases members with
  | nil => exact ⟨_, by rw [writeMembers_singleton, writeString_append]⟩
  | cons second members => exact ⟨_, by rw [writeMembers_cons_cons, writeString_append]⟩

theorem skipSpace_quote (t : Text) : skipSpace (quote :: t) = quote :: t :=
  skipSpace_of_not (by decide) t

theorem readMembers_written {room : Nat} {member : Text × Value} {members : Members}
    (hkeys : ∀ m ∈ member :: members, m.1.IsWhole)
    (hvalues : ∀ m ∈ member :: members, Legible room m.2) {fuel : Nat}
    (hfuel : 2 * (writeMembers (member :: members)).length < fuel) (rest : Text) :
    readMembers fuel room (writeMembers (member :: members) ++ closingBrace :: rest) =
      .ok (member :: members, rest) := by
  have hkey := hkeys member (.head _)
  have hvalue := hvalues member (.head _)
  induction members generalizing member fuel with
  | nil =>
      rw [writeMembers_singleton] at hfuel ⊢
      simp only [List.length_append, List.length_cons] at hfuel
      simp only [List.append_assoc, List.cons_append]
      cases fuel with
      | zero => omega
      | succ fuel =>
          exact readMembers_last hkey (hvalue.skipSpace_write _)
            (hvalue.read (by omega) (ends_closingBrace rest))
  | cons second members ih =>
      obtain ⟨t, hstart⟩ := writeMembers_starts second members
      rw [writeMembers_cons_cons] at hfuel ⊢
      simp only [List.length_append, List.length_cons] at hfuel
      simp only [List.append_assoc, List.cons_append]
      cases fuel with
      | zero => omega
      | succ fuel =>
          apply readMembers_next hkey (hvalue.skipSpace_write _)
            (hvalue.read (by omega) (ends_comma _))
          · rw [hstart]
            exact skipSpace_quote _
          · exact ih (fun m hm => hkeys m (.tail _ hm)) (fun m hm => hvalues m (.tail _ hm))
              (by omega) (hkeys second (.tail _ (.head _))) (hvalues second (.tail _ (.head _)))

theorem isAscii_writeMembers {room : Nat} {members : Members}
    (hvalues : ∀ m ∈ members, Legible room m.2) : (writeMembers members).IsAscii := by
  have hcolon : Text.IsAscii [colon, space] := by decide
  have hcomma : Text.IsAscii [comma, space] := by decide
  induction members with
  | nil => simp [writeMembers, Text.IsAscii]
  | cons first members ih =>
      have hfirst := (hvalues first (.head _)).ascii
      cases members with
      | nil =>
          rw [writeMembers_singleton]
          exact Text.isAscii_append.mpr
            ⟨isAscii_writeString _, Text.isAscii_append.mpr ⟨hcolon, hfirst⟩⟩
      | cons second members =>
          have hlater := ih fun m hm => hvalues m (.tail _ hm)
          rw [writeMembers_cons_cons]
          exact Text.isAscii_append.mpr ⟨isAscii_writeString _, Text.isAscii_append.mpr
            ⟨hcolon, Text.isAscii_append.mpr ⟨hfirst, Text.isAscii_append.mpr ⟨hcomma, hlater⟩⟩⟩⟩

theorem readValue_members {fuel room : Nat} {t rest : Text} {members : Members}
    (hdistinct : (members.map Prod.fst).Nodup)
    (hmembers : readMembers fuel room (quote :: t) = .ok (members, rest)) :
    readValue (fuel + 1) (room + 1) (openingBrace :: quote :: t) = .ok (.object members, rest) := by
  have hquote : openingBrace ≠ quote := by decide
  have hbrace : quote ≠ closingBrace := by decide
  rw [readValue]
  simp only [hquote, hbrace, Nat.succ_ne_zero room, if_true, if_false, skipSpace_quote,
    Nat.add_sub_cancel, hmembers, Except.map, Members.ofPairs_of_nodup hdistinct]

theorem write_object (members : Members) :
    write (.object members) = openingBrace :: (writeMembers members ++ [closingBrace]) := rfl

theorem legible_object {room : Nat} {members : Members}
    (hdistinct : (members.map Prod.fst).Nodup) (hkeys : ∀ m ∈ members, m.1.IsWhole)
    (hvalues : ∀ m ∈ members, Legible room m.2) : Legible (room + 1) (.object members) where
  starts := ⟨_, _, rfl, by decide, by decide⟩
  ascii := by
    have hopening : Text.IsAscii [openingBrace] := by decide
    have hclosing : Text.IsAscii [closingBrace] := by decide
    exact Text.isAscii_append.mpr
      ⟨Text.isAscii_append.mpr ⟨hopening, isAscii_writeMembers hvalues⟩, hclosing⟩
  read := by
    intro fuel rest hfuel _
    rw [write_object] at hfuel ⊢
    simp only [List.length_append, List.length_cons, List.length_nil] at hfuel
    cases fuel with
    | zero => omega
    | succ fuel =>
        simp only [List.cons_append, List.append_assoc, List.nil_append]
        cases members with
        | nil =>
            rw [readValue]
            rfl
        | cons member members =>
            obtain ⟨t, hstart⟩ := writeMembers_starts member members
            have hread : readMembers fuel room
                (writeMembers (member :: members) ++ closingBrace :: rest) =
                  .ok (member :: members, rest) := readMembers_written hkeys hvalues (by omega) rest
            rw [hstart, List.cons_append] at hread ⊢
            exact readValue_members hdistinct hread

/-! ## Documents -/

theorem Plain.legible {room : Nat} {v : Value} (hv : Plain room v) : Legible room v := by
  induction hv with
  | null room => exact legible_null room
  | bool room b => exact legible_bool room b
  | int room hn => exact legible_int room hn
  | text room ht => exact legible_text room ht
  | array _ ih => exact legible_array ih
  | object hdistinct hkeys _ ih => exact legible_object hdistinct hkeys ih

theorem read_write {room : Nat} {v : Value} (hv : Plain room v) :
    read room (write v) = .ok v := by
  have hlegible := hv.legible
  have hstart : skipSpace (write v) = write v := by
    simpa using hlegible.skipSpace_write []
  have hread : readValue (2 * (write v).length + 1) room (write v) = .ok (v, []) := by
    have hends : Ends [] := by simp [Ends]
    simpa using hlegible.read (Nat.le_succ _) hends
  have hall : readAll room (write v) = .ok v := by
    rw [readAll, hstart, hread]
    rfl
  rw [read, hall]
  rfl

theorem itemsFit_of_forall {items : List Value} (hitems : ∀ v ∈ items, v.fits = true) :
    Value.itemsFit items = true := by
  induction items with
  | nil => rfl
  | cons v items ih =>
      rw [Value.itemsFit, hitems v (.head _), ih fun u hu => hitems u (.tail _ hu)]
      rfl

theorem membersFit_iff {members : Members} :
    Value.membersFit members = true ↔ ∀ member ∈ members, member.2.fits = true := by
  induction members with
  | nil => simp [Value.membersFit]
  | cons member members ih => simp [Value.membersFit, ih]

theorem fits_of_plain {room : Nat} {v : Value} (hv : Plain room v) : v.fits = true := by
  induction hv with
  | null | bool | text => rfl
  | int _ hn => exact hn
  | array _ ih => exact itemsFit_of_forall ih
  | object _ _ _ ih => exact membersFit_iff.mpr ih

end Json

namespace Document

open Json

theorem ofBytes_octets {room : Nat} {v : Value} (hv : Plain room v) :
    toText v = .ok (write v) ∧ Utf8.encode? (write v) = some (write v).octets ∧
      ofBytes room (write v).octets = .ok v := by
  have hascii := hv.legible.ascii
  refine ⟨?_, Utf8.encode?_ascii hascii, ?_⟩
  · rw [toText, if_pos (fits_of_plain hv)]
  · rw [ofBytes, readBytes_ascii room hascii, read_write hv]
    rfl

end Document

end AttachGate
