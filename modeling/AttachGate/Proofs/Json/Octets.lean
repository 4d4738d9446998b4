import AttachGate.Json.Source

/-!
# Documents in ASCII

The octets of a text in printable ASCII are its code points.  Whoever looks at them
for the encoding finds UTF-8, and reads the text that was written.
-/

namespace AttachGate

def Text.IsAscii (t : Text) : Prop := ∀ c ∈ t, 0 < c.val ∧ c.val < 0x80

instance (t : Text) : Decidable t.IsAscii := List.decidableBAll _ t

def Text.octets (t : Text) : Bytes := t.map fun c => UInt8.ofNat c.val

theorem Text.isAscii_append {s t : Text} : (s ++ t).IsAscii ↔ s.IsAscii ∧ t.IsAscii :=
  List.forall_mem_append

namespace Utf8

theorem decodePoint?_ascii {c : CodePoint} (hc : c.val < 0x80) (rest : Bytes) :
    decodePoint? (UInt8.ofNat c.val :: rest) = some (c, rest) := by
  have hoctet : (UInt8.ofNat c.val).toNat = c.val := by
    rw [UInt8.toNat_ofNat']
    omega
  have hpoint : CodePoint.ofNat c.val = c := by
    simp [CodePoint.ofNat]
  simp only [decodePoint?, hoctet, hc, if_true, hpoint]

theorem decodeWithin?_ascii {t : Text} (ht : t.IsAscii) {fuel : Nat} (hfuel : t.length ≤ fuel) :
    decodeWithin? fuel t.octets = some t := by
  induction t generalizing fuel with
  | nil => cases fuel <;> rfl
  | cons c rest ih =>
      cases fuel with
      | zero => simp at hfuel
      | succ fuel =>
          have hrest := ih (fun d hd => ht d (.tail c hd)) (Nat.le_of_succ_le_succ hfuel)
          simp only [Text.octets] at hrest
          simp [Text.octets, decodeWithin?, decodePoint?_ascii (ht c (.head rest)).2, hrest]

theorem decode?_ascii {t : Text} (ht : t.IsAscii) : decode? t.octets = some t := by
  apply decodeWithin?_ascii ht
  simp [Text.octets]

theorem encode?_ascii {t : Text} (ht : t.IsAscii) : encode? t = some t.octets := by
  have hplain : t.any CodePoint.isSurrogate = false := by
    rw [List.any_eq_false]
    intro c hc
    have hlt := (ht c hc).2
    simp only [CodePoint.isSurrogate, Bool.and_eq_true, decide_eq_true_eq]
    omega
  have hpoints : t.flatMap encodePoint = t.octets := by
    rw [Text.octets, List.map_eq_flatMap, List.flatMap_def, List.flatMap_def]
    apply congrArg
    apply List.map_congr_left
    intro c hc
    simp [encodePoint, (ht c hc).2]
  simp only [encode?, hplain, Bool.false_eq_true, if_false, hpoints]

end Utf8

namespace Json

/-- Every mark begins with an octet that is no ASCII character or is zero. -/
theorem marks_begin : ∀ entry ∈ marks, ∃ a rest, entry.1 = a :: rest ∧
    ¬ (0 < a.toNat ∧ a.toNat < 0x80) := by
  intro entry hentry
  simp only [marks, List.mem_cons, List.not_mem_nil, or_false] at hentry
  rcases hentry with rfl | rfl | rfl | rfl | rfl
  all_goals exact ⟨_, _, rfl, by decide⟩

/-- Without a mark and without zeros the encoding is taken to be UTF-8. -/
theorem detectEncoding_of_bounds {bytes : Bytes}
    (hbytes : ∀ b ∈ bytes, 0 < b.toNat ∧ b.toNat < 0x80) :
    detectEncoding bytes = (.utf8, bytes) := by
  have hnonzero : ∀ b ∈ bytes, b ≠ 0 := by
    intro b hb hzero
    have hpositive := (hbytes b hb).1
    rw [hzero] at hpositive
    exact Nat.lt_irrefl 0 hpositive
  have hunmarked : (marks.find? fun entry => entry.1.isPrefixOf bytes) = none := by
    rw [List.find?_eq_none]
    intro entry hentry hbegins
    obtain ⟨a, rest, hmark, hbeyond⟩ := marks_begin entry hentry
    simp only [hmark, List.isPrefixOf_iff_prefix] at hbegins
    exact hbeyond (hbytes a (hbegins.subset (.head rest)))
  have hguess : guessEncoding bytes = .utf8 := by
    unfold guessEncoding
    split
    · simp [hnonzero _ (.head _), hnonzero _ (.tail _ (.head _))]
    · simp [hnonzero _ (.head _), hnonzero _ (.tail _ (.head _))]
    · rfl
  simp only [detectEncoding, hunmarked, hguess]

theorem detectEncoding_ascii {t : Text} (ht : t.IsAscii) :
    detectEncoding t.octets = (.utf8, t.octets) := by
  apply detectEncoding_of_bounds
  intro b hb
  rw [Text.octets, List.mem_map] at hb
  obtain ⟨c, hc, rfl⟩ := hb
  have hbounds := ht c hc
  rw [UInt8.toNat_ofNat']
  omega

/-- A document in ASCII is read as the text that it is. -/
theorem readBytes_ascii (room : Nat) {t : Text} (ht : t.IsAscii) :
    readBytes room t.octets = read room t := by
  simp only [readBytes, detectEncoding_ascii ht, Encoding.decode?, Utf8.decode?_ascii ht]

end Json

end AttachGate
