import AttachGate.Proofs.Json.RoundTrip

/-!
# What is read can be written

A value that was read has its integers short enough, names no member of an object
twice, and is nested no deeper than the reader goes.  If the text that it was read
from has no surrogates in it, then no text in the value holds a pair in two halves:
the reader joins the escapes that name one.  So without fractions the value is one
that survives being written.
-/

namespace AttachGate

def Text.IsScalar (t : Text) : Prop := ∀ c ∈ t, c.isSurrogate = false

instance (t : Text) : Decidable t.IsScalar := List.decidableBAll _ t

theorem Text.IsScalar.of_suffix {s t : Text} (hsuffix : s <:+ t) (ht : t.IsScalar) : s.IsScalar :=
  fun c hc => ht c (hsuffix.subset hc)

namespace Json

/-! ## Strings -/

/-- How a text spells a string up to its closing quote: the string, and what follows
the quote.  The escape of a high surrogate stands apart from one of a low surrogate. -/
inductive Spells : Text → Text → Text → Prop
  | ends (rest : Text) : Spells (quote :: rest) [] rest
  | pair {a b c d a' b' c' d' high low : CodePoint} {t s rest : Text}
    (hhigh : hexPoint? a b c d = some high) (hlow : hexPoint? a' b' c' d' = some low)
    (hhigh' : high.isHighSurrogate = true) (hlow' : low.isLowSurrogate = true)
    (hrest : Spells t s rest) :
    Spells (backslash :: letterU :: a :: b :: c :: d :: backslash :: letterU ::
      a' :: b' :: c' :: d' :: t) (CodePoint.ofPair high low :: s) rest
  | unit {a b c d unit : CodePoint} {t s rest : Text} (hunit : hexPoint? a b c d = some unit)
    (hapart : ∀ a' b' c' d' y low further,
      t = backslash :: letterU :: a' :: b' :: c' :: d' :: y :: further →
        hexPoint? a' b' c' d' = some low →
          ¬ (unit.isHighSurrogate = true ∧ low.isLowSurrogate = true))
    (hrest : Spells t s rest) :
    Spells (backslash :: letterU :: a :: b :: c :: d :: t) (unit :: s) rest
  | letter {e plain : CodePoint} {t s rest : Text} (hplain : simpleEscape? e = some plain)
    (hrest : Spells t s rest) : Spells (backslash :: e :: t) (plain :: s) rest
  | plain {c : CodePoint} {t s rest : Text} (hrest : Spells t s rest) :
    Spells (c :: t) (c :: s) rest

theorem Reading.of_cons {c : CodePoint} {r : Reading Text} {s rest : Text}
    (hcons : r.cons c = .ok (s, rest)) : ∃ s', r = .ok (s', rest) ∧ s = c :: s' := by
  cases r with
  | error e => cases hcons
  | ok p =>
      obtain ⟨s', rest'⟩ := p
      cases hcons
      exact ⟨s', rfl, rfl⟩

theorem spells_of_readString {opening t s rest : Text}
    (hread : readString opening t = .ok (s, rest)) : Spells t s rest := by
  fun_induction readString opening t generalizing s with
  | case2 rest =>
      cases hread
      exact .ends rest
  | case6 a b c d x high hhigh u a' b' c' d' y further hpair low hlow hlow' _ ih =>
      obtain ⟨s', hs', rfl⟩ := Reading.of_cons hread
      simp only [Bool.and_eq_true, decide_eq_true_eq] at hpair
      obtain ⟨⟨hhigh', rfl⟩, rfl⟩ := hpair
      exact .pair hhigh hlow hhigh' hlow' (ih hs')
  | case7 a b c d x high hhigh u a' b' c' d' y further hpair low hlow hother _ ih =>
      obtain ⟨s', hs', rfl⟩ := Reading.of_cons hread
      refine .unit hhigh ?_ (ih hs')
      intro a'' b'' c'' d'' y' low' further' ht hlow' hboth
      cases ht
      rw [hlow] at hlow'
      cases hlow'
      exact hother hboth.2
  | case8 a b c d x unit hunit u a' b' c' d' y further hother _ ih =>
      obtain ⟨s', hs', rfl⟩ := Reading.of_cons hread
      refine .unit hunit ?_ (ih hs')
      intro a'' b'' c'' d'' y' low' further' ht _ hboth
      cases ht
      exact hother (by simp [hboth.1])
  | case9 a b c d x unit hunit after hshort _ ih =>
      obtain ⟨s', hs', rfl⟩ := Reading.of_cons hread
      refine .unit hunit ?_ (ih hs')
      intro a' b' c' d' y low further ht _ _
      exact hshort _ _ _ _ _ _ _ (List.cons.inj ht).2
  | case11 e more _ plain hplain _ ih =>
      obtain ⟨s', hs', rfl⟩ := Reading.of_cons hread
      exact .letter hplain (ih hs')
  | case14 c rest' _ _ _ ih =>
      obtain ⟨s', hs', rfl⟩ := Reading.of_cons hread
      exact .plain (ih hs')
  | _ => cases hread

theorem Spells.suffix {t s rest : Text} (hspells : Spells t s rest) : rest <:+ t := by
  induction hspells with
  | ends rest => exact List.suffix_cons _ _
  | pair _ _ _ _ _ ih => exact ih.trans ⟨[_, _, _, _, _, _, _, _, _, _, _, _], rfl⟩
  | unit _ _ _ ih => exact ih.trans ⟨[_, _, _, _, _, _], rfl⟩
  | letter _ _ ih => exact ih.trans ⟨[_, _], rfl⟩
  | plain _ ih => exact ih.trans ⟨[_], rfl⟩

theorem isSurrogate_eq (c : CodePoint) :
    c.isSurrogate = (c.isHighSurrogate || c.isLowSurrogate) := by
  rw [Bool.eq_iff_iff]
  simp only [CodePoint.isSurrogate, CodePoint.isHighSurrogate, CodePoint.isLowSurrogate,
    Bool.or_eq_true, Bool.and_eq_true, decide_eq_true_eq]
  omega

theorem isSurrogate_of_escape {e c : CodePoint} (he : simpleEscape? e = some c) :
    c.isSurrogate = false := by
  unfold simpleEscape? at he
  split_ifs at he with hself <;> cases he
  · rcases hself with rfl | rfl | rfl <;> decide
  all_goals decide

theorem isSurrogate_ofPair {high low : CodePoint} (hhigh : high.isHighSurrogate = true)
    (hlow : low.isLowSurrogate = true) : (CodePoint.ofPair high low).isSurrogate = false := by
  simp only [CodePoint.isHighSurrogate, CodePoint.isLowSurrogate, CodePoint.isSurrogate,
    Bool.and_eq_true, decide_eq_true_eq, Bool.and_eq_false_iff, decide_eq_false_iff_not]
    at hhigh hlow ⊢
  rw [CodePoint.ofPair, CodePoint.val_ofNat (by omega)]
  omega

/-- In a text without surrogates a string starts with a surrogate only if an escape of
one stands there. -/
theorem Spells.escape_of_surrogate {t s rest : Text} {c : CodePoint}
    (hspells : Spells t (c :: s) rest) (ht : t.IsScalar) (hc : c.isSurrogate = true) :
    ∃ a b d e y further, t = backslash :: letterU :: a :: b :: d :: e :: y :: further ∧
      hexPoint? a b d e = some c := by
  generalize hword : c :: s = word at hspells
  cases hspells with
  | ends => cases hword
  | pair _ _ hhigh hlow _ =>
      rw [(List.cons.inj hword).1, isSurrogate_ofPair hhigh hlow] at hc
      cases hc
  | unit hunit _ hrest =>
      rw [(List.cons.inj hword).1]
      cases hrest <;> exact ⟨_, _, _, _, _, _, rfl, hunit⟩
  | letter hplain _ =>
      rw [(List.cons.inj hword).1, isSurrogate_of_escape hplain] at hc
      cases hc
  | plain _ =>
      rw [(List.cons.inj hword).1, ht _ (.head _)] at hc
      cases hc

theorem isWhole_cons {c : CodePoint} {s : Text} (hs : s.IsWhole) (hc : c.isSurrogate = false) :
    Text.IsWhole (c :: s) := by
  rw [isSurrogate_eq, Bool.or_eq_false_iff] at hc
  refine List.isChain_cons.mpr ⟨?_, hs⟩
  intro low _ hboth
  rw [hc.1] at hboth
  cases hboth.1

theorem isWhole_of_isScalar {t : Text} (ht : t.IsScalar) : t.IsWhole := by
  induction t with
  | nil => exact List.isChain_nil
  | cons c t ih => exact isWhole_cons (ih fun d hd => ht d (.tail c hd)) (ht c (.head t))

/-- A string in a text without surrogates holds no pair of them in two halves. -/
theorem Spells.isWhole {t s rest : Text} (hspells : Spells t s rest) (ht : t.IsScalar) :
    s.IsWhole := by
  induction hspells with
  | ends rest => exact List.isChain_nil
  | pair _ _ hhigh hlow _ ih =>
      have hs := ih (ht.of_suffix ⟨[_, _, _, _, _, _, _, _, _, _, _, _], rfl⟩)
      exact isWhole_cons hs (isSurrogate_ofPair hhigh hlow)
  | @unit a b c d unit t s rest _ hapart hrest ih =>
      have hlater : t.IsScalar := ht.of_suffix ⟨[_, _, _, _, _, _], rfl⟩
      refine List.isChain_cons.mpr ⟨?_, ih hlater⟩
      intro low hlow hboth
      obtain ⟨s', rfl⟩ : ∃ s', s = low :: s' := by
        cases s with
        | nil => cases hlow
        | cons d s' =>
            cases hlow
            exact ⟨s', rfl⟩
      have hsurrogate : low.isSurrogate = true := by simp [isSurrogate_eq, hboth.2]
      obtain ⟨_, _, _, _, _, _, hfollows, hpoint⟩ := hrest.escape_of_surrogate hlater hsurrogate
      exact hapart _ _ _ _ _ _ _ hfollows hpoint hboth
  | letter hplain _ ih =>
      exact isWhole_cons (ih (ht.of_suffix ⟨[_, _], rfl⟩)) (isSurrogate_of_escape hplain)
  | plain _ ih => exact isWhole_cons (ih (ht.of_suffix ⟨[_], rfl⟩)) (ht _ (.head _))

/-! ## Words and numbers -/

theorem skipSpace_suffix (t : Text) : skipSpace t <:+ t := List.dropWhile_suffix _

/-- What follows the mark behind a part of a text belongs to the text. -/
theorem suffix_of_mark {s t after : Text} {c : CodePoint} (hmark : skipSpace s = c :: after)
    (hs : s <:+ t) : after <:+ t := by
  have hskipped := skipSpace_suffix s
  rw [hmark] at hskipped
  exact ((List.suffix_cons c after).trans hskipped).trans hs

/-- What a text that begins like no string and no bracket can be read as. -/
inductive Scalar : Value → Prop
  | null : Scalar .null
  | bool (b : Bool) : Scalar (.bool b)
  | int {n : Int} (hn : Value.integerFits n = true) : Scalar (.int n)
  | float (x : Binary64) : Scalar (.float x)

theorem readWord?_spec {t rest : Text} {v : Value} (hread : readWord? t = some (v, rest)) :
    Scalar v ∧ rest <:+ t := by
  obtain ⟨⟨word, w⟩, hfind, hsame⟩ := Option.map_eq_some_iff.mp hread
  obtain ⟨rfl, rfl⟩ := Prod.mk.inj hsame
  refine ⟨?_, List.drop_suffix _ _⟩
  have hmem := List.mem_of_find?_eq_some hfind
  simp only [words, List.mem_cons, List.not_mem_nil, or_false, Prod.mk.injEq] at hmem
  rcases hmem with ⟨_, rfl⟩ | ⟨_, rfl⟩ | ⟨_, rfl⟩ | ⟨_, rfl⟩ | ⟨_, rfl⟩ | ⟨_, rfl⟩
  · exact .null
  · exact .bool true
  · exact .bool false
  all_goals exact .float _

theorem span_suffix (p : CodePoint → Bool) (t : Text) : (t.span p).2 <:+ t := by
  rw [List.span_eq_takeWhile_dropWhile]
  exact List.dropWhile_suffix p

theorem readWhole_suffix (t : Text) : (readWhole t).2 <:+ t := by
  unfold readWhole
  split
  · split
    · exact List.suffix_cons _ _
    · exact span_suffix _ _
  · exact List.suffix_rfl

theorem readFraction_suffix (t : Text) : (readFraction t).2 <:+ t := by
  unfold readFraction
  split
  · simp only
    split
    · exact (span_suffix _ _).trans (List.suffix_cons _ _)
    · exact List.suffix_rfl
  · exact List.suffix_rfl

theorem takeSign_suffix (t : Text) : (Numeral.takeSign t).2 <:+ t := by
  unfold Numeral.takeSign
  split
  · split_ifs
    · exact List.suffix_cons _ _
    · exact List.suffix_cons _ _
    · exact List.suffix_rfl
  · exact List.suffix_rfl

theorem readExponent_suffix (t : Text) : (readExponent t).2 <:+ t := by
  unfold readExponent
  split
  · simp only
    split
    · exact ((span_suffix _ _).trans (takeSign_suffix _)).trans (List.suffix_cons _ _)
    · exact List.suffix_rfl
  · exact List.suffix_rfl

theorem integerFits_of_length {digits : Text} (hshort : digits.length ≤ maxIntegerDigits)
    {n : Int} (hn : n.natAbs = Numeral.valueOfDigits digits) : Value.integerFits n = true := by
  unfold Value.integerFits
  rw [hn]
  generalize maxIntegerDigits = most at *
  exact decide_eq_true (Nat.lt_of_lt_of_le (Text.valueOfDigits_lt digits)
    (Nat.pow_le_pow_right (by decide) hshort))

theorem readNumber_spec {t rest : Text} {v : Value} (hread : readNumber t = .ok (v, rest)) :
    Scalar v ∧ rest <:+ t := by
  unfold readNumber at hread
  split at hread
  rename_i negative body hsign
  have hbody : body <:+ t := by
    split at hsign
    · split at hsign
      · cases hsign
        exact List.suffix_cons _ _
      · cases hsign
        exact List.suffix_rfl
    · cases hsign
      exact List.suffix_rfl
  split at hread
  rename_i whole afterWhole hwhole
  split at hread
  · cases hread
  split at hread
  rename_i fraction afterFraction hfraction
  split at hread
  rename_i exponent afterExponent hexponent
  have hafter : afterExponent <:+ t := by
    have hone := readWhole_suffix body
    have htwo := readFraction_suffix afterWhole
    have hthree := readExponent_suffix afterFraction
    rw [hwhole] at hone
    rw [hfraction] at htwo
    rw [hexponent] at hthree
    exact ((hthree.trans htwo).trans hone).trans hbody
  split at hread
  · split at hread
    · cases hread
    · rename_i hshort
      cases hread
      refine ⟨.int (integerFits_of_length (Nat.not_lt.mp hshort) ?_), hafter⟩
      split <;> simp
  · cases hread
    exact ⟨.float _, hafter⟩

/-! ## Values -/

/-- What a text begins with when a value is read from it, and what is read behind its
bracket. -/
inductive Starts (fuel : Nat) : Nat → Text → Value → Text → Prop
  | text {room : Nat} {t s rest : Text} (hspells : Spells t s rest) :
    Starts fuel room (quote :: t) (.text s) rest
  | noMembers {room : Nat} {t rest : Text} (hskip : skipSpace t = closingBrace :: rest) :
    Starts fuel (room + 1) (openingBrace :: t) (.object []) rest
  | members {room : Nat} {t rest : Text} {pairs : List (Text × Value)}
    (hmembers : readMembers fuel room (skipSpace t) = .ok (pairs, rest)) :
    Starts fuel (room + 1) (openingBrace :: t) (.object (Members.ofPairs pairs)) rest
  | noItems {room : Nat} {t rest : Text} (hskip : skipSpace t = closingBracket :: rest) :
    Starts fuel (room + 1) (openingBracket :: t) (.array []) rest
  | items {room : Nat} {t rest : Text} {items : List Value}
    (hitems : readItems fuel room (skipSpace t) = .ok (items, rest)) :
    Starts fuel (room + 1) (openingBracket :: t) (.array items) rest
  | scalar {room : Nat} {t rest : Text} {v : Value} (hv : Scalar v) (hrest : rest <:+ t) :
    Starts fuel room t v rest

theorem starts_of_readValue {fuel room : Nat} {t rest : Text} {v : Value}
    (hread : readValue (fuel + 1) room t = .ok (v, rest)) : Starts fuel room t v rest := by
  cases t with
  | nil => cases hread
  | cons c t =>
      rw [readValue] at hread
      split_ifs at hread with hquote hbrace hroom hbracket hroom
      · obtain ⟨⟨s, after⟩, hstring, hsame⟩ := map_eq_ok.mp hread
        cases hsame
        rw [hquote]
        exact .text (spells_of_readString hstring)
      · obtain ⟨room, rfl⟩ := Nat.exists_eq_succ_of_ne_zero hroom
        rw [hbrace]
        split at hread
        · rename_i d after hskip
          split at hread
          · rename_i hd
            cases hread
            rw [hd] at hskip
            exact .noMembers hskip
          · obtain ⟨⟨pairs, behind⟩, hmembers, hsame⟩ := map_eq_ok.mp hread
            cases hsame
            exact .members (hskip ▸ hmembers)
        · cases hread
      · obtain ⟨room, rfl⟩ := Nat.exists_eq_succ_of_ne_zero hroom
        rw [hbracket]
        split at hread
        · rename_i d after hskip
          split at hread
          · rename_i hd
            cases hread
            rw [hd] at hskip
            exact .noItems hskip
          · obtain ⟨⟨items, behind⟩, hitems, hsame⟩ := map_eq_ok.mp hread
            cases hsame
            exact .items (hskip ▸ hitems)
        · cases hread
      · split at hread
        · rename_i reading hword
          cases hread
          obtain ⟨hscalar, hsuffix⟩ := readWord?_spec hword
          exact .scalar hscalar hsuffix
        · obtain ⟨hscalar, hsuffix⟩ := readNumber_spec hread
          exact .scalar hscalar hsuffix

/-- A value as it is read: its texts are of a kind, its integers short enough, the keys of
an object different, its brackets nested at most `room` deep. -/
inductive Built (P : Text → Prop) : Nat → Value → Prop
  | scalar (room : Nat) {v : Value} (hv : Scalar v) : Built P room v
  | text (room : Nat) {t : Text} (ht : P t) : Built P room (.text t)
  | array {room : Nat} {items : List Value} (hitems : ∀ v ∈ items, Built P room v) :
    Built P (room + 1) (.array items)
  | object {room : Nat} {members : Members} (hdistinct : (members.map Prod.fst).Nodup)
    (hkeys : ∀ member ∈ members, P member.1)
    (hvalues : ∀ member ∈ members, Built P room member.2) : Built P (room + 1) (.object members)

/-- With so much fuel, values, items and members are built of texts of a kind when they
are read from texts of a source. -/
structure Builds (P source : Text → Prop) (fuel : Nat) : Prop where
  value : ∀ {room t v rest}, source t → readValue fuel room t = .ok (v, rest) →
    Built P room v ∧ rest <:+ t
  items : ∀ {room t items rest}, source t → readItems fuel room t = .ok (items, rest) →
    (∀ v ∈ items, Built P room v) ∧ rest <:+ t
  members : ∀ {room t members rest}, source t → readMembers fuel room t = .ok (members, rest) →
    (∀ member ∈ members, P member.1 ∧ Built P room member.2) ∧ rest <:+ t

/-- What a source is spelt with: its parts belong to it, and the strings in it are of a
kind. -/
structure SourceOf (P source : Text → Prop) : Prop where
  suffix : ∀ {s t : Text}, s <:+ t → source t → source s
  spells : ∀ {t s rest : Text}, source t → Spells t s rest → P s

theorem sourceOf_any : SourceOf (fun _ => True) fun _ => True where
  suffix _ _ := trivial
  spells _ _ := trivial

theorem sourceOf_scalar : SourceOf Text.IsWhole Text.IsScalar where
  suffix hsuffix ht := ht.of_suffix hsuffix
  spells ht hspells := hspells.isWhole ht

section Source

variable {P source : Text → Prop} (hsource : SourceOf P source) {fuel : Nat}

include hsource

theorem Builds.value_succ (hbuilds : Builds P source fuel) {room : Nat} {t rest : Text} {v : Value}
    (ht : source t) (hread : readValue (fuel + 1) room t = .ok (v, rest)) :
    Built P room v ∧ rest <:+ t := by
  have hskipped : ∀ (c : CodePoint) (later : Text), skipSpace later <:+ c :: later :=
    fun c later => (skipSpace_suffix later).trans (List.suffix_cons c later)
  cases starts_of_readValue hread with
  | @text _ later s _ hspells =>
      have hlater := List.suffix_cons quote later
      exact ⟨.text room (hsource.spells (hsource.suffix hlater ht) hspells),
        hspells.suffix.trans hlater⟩
  | noMembers hskip =>
      exact ⟨.object (by simp) (by simp) (by simp), suffix_of_mark hskip (List.suffix_cons _ _)⟩
  | @members _ later _ pairs hmembers =>
      have hsuffix := hskipped openingBrace later
      obtain ⟨hall, hrest⟩ := hbuilds.members (hsource.suffix hsuffix ht) hmembers
      obtain ⟨hdistinct, hmem⟩ := Members.ofPairs_spec pairs
      exact ⟨.object hdistinct (fun m hm => (hall m (hmem m hm)).1)
        (fun m hm => (hall m (hmem m hm)).2), hrest.trans hsuffix⟩
  | noItems hskip =>
      exact ⟨.array (by simp), suffix_of_mark hskip (List.suffix_cons _ _)⟩
  | @items _ later _ items hitems =>
      have hsuffix := hskipped openingBracket later
      obtain ⟨hall, hrest⟩ := hbuilds.items (hsource.suffix hsuffix ht) hitems
      exact ⟨.array hall, hrest.trans hsuffix⟩
  | scalar hv hrest => exact ⟨.scalar room hv, hrest⟩

theorem Builds.items_succ (hbuilds : Builds P source fuel) {room : Nat} {t rest : Text}
    {items : List Value} (ht : source t)
    (hread : readItems (fuel + 1) room t = .ok (items, rest)) :
    (∀ v ∈ items, Built P room v) ∧ rest <:+ t := by
  rw [readItems] at hread
  obtain ⟨⟨v, afterValue⟩, hvalue, hread⟩ := bind_eq_ok.mp hread
  obtain ⟨hv, hafter⟩ := hbuilds.value ht hvalue
  simp only at hread
  split at hread
  · rename_i c after hskip
    have hmark : after <:+ t := suffix_of_mark hskip hafter
    split at hread
    · cases hread
      exact ⟨by simpa using hv, hmark⟩
    split at hread
    · obtain ⟨⟨later, behind⟩, hitems, hread⟩ := bind_eq_ok.mp hread
      cases hread
      have hnext := (skipSpace_suffix after).trans hmark
      obtain ⟨hall, hbehind⟩ := hbuilds.items (hsource.suffix hnext ht) hitems
      exact ⟨List.forall_mem_cons.mpr ⟨hv, hall⟩, hbehind.trans hnext⟩
    · cases hread
  · cases hread

theorem Builds.members_succ (hbuilds : Builds P source fuel) {room : Nat} {t rest : Text}
    {members : Members} (ht : source t)
    (hread : readMembers (fuel + 1) room t = .ok (members, rest)) :
    (∀ member ∈ members, P member.1 ∧ Built P room member.2) ∧ rest <:+ t := by
  cases t with
  | nil => cases hread
  | cons c t =>
      rw [readMembers] at hread
      split at hread
      · cases hread
      obtain ⟨⟨key, afterKey⟩, hstring, hread⟩ := bind_eq_ok.mp hread
      have hspells := spells_of_readString hstring
      have hrest := List.suffix_cons c t
      have hkey := hsource.spells (hsource.suffix hrest ht) hspells
      simp only at hread
      split at hread
      · rename_i d afterColon hcolon
        have hfront : skipSpace afterColon <:+ c :: t :=
          (skipSpace_suffix afterColon).trans
            (suffix_of_mark hcolon (hspells.suffix.trans hrest))
        split at hread
        · cases hread
        obtain ⟨⟨v, afterValue⟩, hvalue, hread⟩ := bind_eq_ok.mp hread
        obtain ⟨hv, hafter⟩ := hbuilds.value (hsource.suffix hfront ht) hvalue
        simp only at hread
        split at hread
        · rename_i e after hskip
          have hmark : after <:+ c :: t := suffix_of_mark hskip (hafter.trans hfront)
          split at hread
          · cases hread
            exact ⟨by simpa using ⟨hkey, hv⟩, hmark⟩
          split at hread
          · obtain ⟨⟨later, behind⟩, hmembers, hread⟩ := bind_eq_ok.mp hread
            cases hread
            have hnext := (skipSpace_suffix after).trans hmark
            obtain ⟨hall, hbehind⟩ := hbuilds.members (hsource.suffix hnext ht) hmembers
            exact ⟨List.forall_mem_cons.mpr ⟨⟨hkey, hv⟩, hall⟩, hbehind.trans hnext⟩
          · cases hread
        · cases hread
      · cases hread

theorem builds (fuel : Nat) : Builds P source fuel := by
  induction fuel with
  | zero =>
      constructor
      · intro room t v rest _ hread
        cases hread
      · intro room t items rest _ hread
        cases hread
      · intro room t members rest _ hread
        cases hread
  | succ fuel ih =>
      exact ⟨ih.value_succ hsource, ih.items_succ hsource, ih.members_succ hsource⟩

theorem built_of_read {room : Nat} {t : Text} {v : Value} (ht : source t)
    (hread : read room t = .ok v) : Built P room v := by
  have hall : readAll room t = .ok v := by
    unfold read at hread
    cases hstop : readAll room t with
    | ok w =>
        rw [hstop] at hread
        cases hread
        rfl
    | error stop =>
        rw [hstop] at hread
        cases hread
  unfold readAll at hall
  obtain ⟨⟨w, rest⟩, hvalue, hend⟩ := bind_eq_ok.mp hall
  have hstart := hsource.suffix (skipSpace_suffix t) ht
  obtain ⟨hbuilt, _⟩ := (builds hsource _).value hstart hvalue
  simp only at hend
  split at hend
  · cases hend
    exact hbuilt
  · cases hend

theorem built_of_readText {room : Nat} {t : Text} {v : Value} (ht : source t)
    (hread : readText room t = .ok v) : Built P room v := by
  unfold readText at hread
  split at hread
  · split at hread
    · cases hread
    · exact built_of_read hsource ht hread
  · exact built_of_read hsource ht hread

end Source

/-! ## Writing what was read -/

theorem fits_of_built {P : Text → Prop} {room : Nat} {v : Value} (hv : Built P room v) :
    v.fits = true := by
  induction hv with
  | scalar room hv =>
      cases hv with
      | int hn => exact hn
      | _ => rfl
  | text room ht => rfl
  | array _ ih => exact itemsFit_of_forall ih
  | object _ _ _ ih => exact membersFit_iff.mpr ih

/-- Whatever was read can be written. -/
theorem fits_of_readText {room : Nat} {t : Text} {v : Value} (hread : readText room t = .ok v) :
    v.fits = true :=
  fits_of_built (built_of_readText sourceOf_any trivial hread)

inductive Integral : Value → Prop
  | null : Integral .null
  | bool (b : Bool) : Integral (.bool b)
  | int (n : Int) : Integral (.int n)
  | text (t : Text) : Integral (.text t)
  | array {items : List Value} (hitems : ∀ v ∈ items, Integral v) : Integral (.array items)
  | object {members : Members} (hvalues : ∀ member ∈ members, Integral member.2) :
    Integral (.object members)

theorem Built.plain {room : Nat} {v : Value} (hv : Built Text.IsWhole room v)
    (hintegral : Integral v) : Plain room v := by
  induction hv with
  | scalar room hv =>
      cases hv with
      | null => exact .null room
      | bool b => exact .bool room b
      | int hn => exact .int room hn
      | float x => cases hintegral
  | text room ht => exact .text room ht
  | array _ ih =>
      cases hintegral with
      | array hitems => exact .array fun v hv => ih v hv (hitems v hv)
  | object hdistinct hkeys _ ih =>
      cases hintegral with
      | object hvalues => exact .object hdistinct hkeys fun m hm => ih m hm (hvalues m hm)

/-- Without fractions, what was read from a text without surrogates survives being
written. -/
theorem plain_of_readText {room : Nat} {t : Text} (ht : t.IsScalar) {v : Value}
    (hread : readText room t = .ok v) (hintegral : Integral v) : Plain room v :=
  (built_of_readText sourceOf_scalar ht hread).plain hintegral

/-- A value that survives being written is read back from its text. -/
theorem readText_write {room : Nat} {v : Value} (hv : Plain room v) :
    readText room (write v) = .ok v := by
  have hlegible := hv.legible
  obtain ⟨c, t, hstarts, _⟩ := hlegible.starts
  have hmark : c.val ≠ 0xFEFF := by
    have hc := (hlegible.ascii c (by rw [hstarts]; exact .head _)).2
    omega
  rw [hstarts, readText, if_neg hmark, ← hstarts, read_write hv]

end Json

end AttachGate
