import ServiceDiscovery.Proofs.Text.Points
import ServiceDiscovery.Text.Utf8

/-!
What the lenient reader makes of any bytes. Bytes are cut from the front into encodings of
characters and, where none stands, into the longest piece that begins one, or else a single byte;
each such piece is read as one replacement character. There is one way to cut, and it is the
reader's. So text that was encoded comes back as it was. The encoding is the one in which strings
are kept anyway.
-/

namespace ServiceDiscovery.Text.Utf8

/-- Do these bytes begin the encoding of a character? -/
def Begins (piece : List UInt8) : Prop :=
  ∃ c, piece <+: encodeChar c

/-- A piece in front of other bytes where no character is encoded: the longest one that begins the
encoding of a character, or a single byte if there is none. -/
structure Broken (piece rest : List UInt8) : Prop where
  unencoded : ∀ c, ¬ encodeChar c <+: piece ++ rest
  nonempty : piece ≠ []
  begins : Begins piece ∨ piece.length = 1
  longest : ∀ longer, longer <+: piece ++ rest → Begins longer → longer.length ≤ piece.length

/-- Bytes and the characters that they are read as. -/
inductive Reads : List UInt8 → List Char → Prop where
  | nil : Reads [] []
  | char (c : Char) {rest : List UInt8} {cs : List Char} (h : Reads rest cs) :
      Reads (encodeChar c ++ rest) (c :: cs)
  | broken {piece rest : List UInt8} {cs : List Char} (hpiece : Broken piece rest)
      (h : Reads rest cs) : Reads (piece ++ rest) (replacement :: cs)

/-- Bytes that may follow a first byte: the next one within its own bounds, and continuation bytes
behind it. -/
def Follows (low high : UInt8) : List UInt8 → Prop
  | [] => True
  | b :: rest => (low ≤ b ∧ b ≤ high) ∧ Follows 0x80 0xBF rest

/-- The number that the bits of a first byte and the bytes behind it make. -/
def assemble (bits : Nat) (taken : List UInt8) : Nat :=
  taken.foldl (fun value b => value * 64 + b.toNat % 64) bits

variable {low high b : UInt8} {taken more rest bs : List UInt8} {lead : Lead} {c : Char}

theorem Follows.of_prefix (follows : Follows low high bs) (hbegin : taken <+: bs) :
    Follows low high taken := by
  induction bs generalizing low high taken with
  | nil =>
      rw [List.prefix_nil.mp hbegin]
      trivial
  | cons b rest ih =>
      rcases List.prefix_cons_iff.mp hbegin with rfl | ⟨shorter, rfl, hshorter⟩
      · trivial
      · exact ⟨follows.1, ih follows.2 hshorter⟩

/-- Reading takes bytes as long as they may follow, and no more than are due. -/
theorem follow_cases (value : Nat) (low high : UInt8) (due : Nat) (bs : List UInt8) :
    ∃ taken rest, bs = taken ++ rest ∧ Follows low high taken ∧
      (taken.length = due ∧ follow value low high due bs = (some (assemble value taken), rest) ∨
        taken.length < due ∧ follow value low high due bs = (none, rest) ∧
          ∀ b, rest.head? = some b → ¬ Follows low high (taken ++ [b])) := by
  induction due generalizing value low high bs with
  | zero => exact ⟨[], bs, rfl, trivial, Or.inl ⟨rfl, rfl⟩⟩
  | succ due ih =>
      cases bs with
      | nil => exact ⟨[], [], rfl, trivial, Or.inr ⟨by simp, rfl, by simp⟩⟩
      | cons b bs =>
          by_cases hb : low ≤ b ∧ b ≤ high
          · have hfollow : follow value low high (due + 1) (b :: bs) =
                follow (value * 64 + b.toNat % 64) 0x80 0xBF due bs := by
              simp [follow, hb]
            rw [hfollow]
            obtain ⟨taken, rest, rfl, follows, hread⟩ := ih (value * 64 + b.toNat % 64) 0x80 0xBF bs
            refine ⟨b :: taken, rest, rfl, ⟨hb, follows⟩, ?_⟩
            rcases hread with ⟨hlength, hread⟩ | ⟨hlength, hread, hstop⟩
            · exact Or.inl ⟨by simpa using hlength, hread⟩
            · refine Or.inr ⟨by simpa using hlength, hread, ?_⟩
              intro next hnext hfollows
              exact hstop next hnext hfollows.2
          · refine ⟨[], b :: bs, rfl, trivial, Or.inr ⟨by simp, ?_, ?_⟩⟩
            · simp [follow, hb]
            · intro next hnext hfollows
              obtain rfl : b = next := by simpa using hnext
              exact hb hfollows.1

/-- Up to as many as are due, bytes that may follow can be added. -/
theorem Follows.extend (follows : Follows low high taken) (hbounds : low ≤ high) {due : Nat}
    (hlength : taken.length ≤ due) :
    ∃ more, Follows low high (taken ++ more) ∧ (taken ++ more).length = due := by
  induction due generalizing low high taken with
  | zero =>
      obtain rfl := List.length_eq_zero_iff.mp (Nat.le_zero.mp hlength)
      exact ⟨[], trivial, rfl⟩
  | succ due ih =>
      cases taken with
      | nil =>
          have hnone : Follows 0x80 0xBF [] := trivial
          obtain ⟨more, hmore, hdue⟩ := ih hnone (by decide) (Nat.zero_le due)
          exact ⟨low :: more, ⟨⟨UInt8.le_refl low, hbounds⟩, hmore⟩, by simpa using hdue⟩
      | cons b rest =>
          obtain ⟨more, hmore, hdue⟩ := ih follows.2 (by decide) (by simpa using hlength)
          exact ⟨more, ⟨follows.1, hmore⟩, by simpa using hdue⟩

/-- A number is that of a character unless it is half of a surrogate pair or past the last one. -/
theorem toNat_ofNat {n : Nat} (hvalid : n < 0xD800 ∨ 0xDFFF < n ∧ n < 0x110000) :
    (Char.ofNat n).toNat = n := by
  rw [Char.ofNat, dif_pos hvalid]
  exact UInt32.toNat_ofNatLT

/-- What a first byte says, by how many bytes are to follow. -/
inductive Lead.Fits (b : Nat) : Lead → Prop where
  | one (hb : b < 0x80) : Fits b ⟨0, b, 0x80, 0xBF⟩
  | two (hleast : 0xC2 ≤ b) (hmost : b < 0xE0) : Fits b ⟨1, b - 0xC0, 0x80, 0xBF⟩
  | three (hleast : 0xE0 ≤ b) (hmost : b < 0xF0) {low high : UInt8}
      (hlow : low.toNat = if b = 0xE0 then 0xA0 else 0x80)
      (hhigh : high.toNat = if b = 0xED then 0x9F else 0xBF) : Fits b ⟨2, b - 0xE0, low, high⟩
  | four (hleast : 0xF0 ≤ b) (hmost : b ≤ 0xF4) {low high : UInt8}
      (hlow : low.toNat = if b = 0xF0 then 0x90 else 0x80)
      (hhigh : high.toNat = if b = 0xF4 then 0x8F else 0xBF) : Fits b ⟨3, b - 0xF0, low, high⟩

theorem lead?_fits (hlead : lead? b = some lead) : lead.Fits b.toNat := by
  unfold lead? at hlead
  simp only [UInt8.lt_iff_toNat_lt, ← UInt8.toNat_inj, UInt8.reduceToNat] at hlead
  split at hlead
  case isTrue hb => cases hlead; exact .one hb
  split at hlead
  case isTrue hb => cases hlead
  split at hlead
  case isTrue hb => cases hlead; exact .two (by omega) hb
  split at hlead
  case isTrue hb => cases hlead; rw [hb]; exact .three (by decide) (by decide) rfl rfl
  split at hlead
  case isTrue hb => cases hlead; rw [hb]; exact .three (by decide) (by decide) rfl rfl
  split at hlead
  case isTrue hb =>
    cases hlead
    exact .three (by omega) hb (by rw [if_neg (by omega)]; rfl) (by rw [if_neg (by omega)]; rfl)
  split at hlead
  case isTrue hb => cases hlead; rw [hb]; exact .four (by decide) (by decide) rfl rfl
  split at hlead
  case isTrue hb =>
    cases hlead
    exact .four (by omega) (by omega) (by rw [if_neg (by omega)]; rfl)
      (by rw [if_neg (by omega)]; rfl)
  split at hlead
  case isTrue hb => cases hlead; rw [hb]; exact .four (by decide) (by decide) rfl rfl
  cases hlead

theorem exists_fits (hb : b.toNat < 0x80 ∨ 0xC2 ≤ b.toNat ∧ b.toNat ≤ 0xF4) :
    ∃ lead, lead? b = some lead ∧ lead.Fits b.toNat := by
  have hsome : (lead? b).isSome := by
    unfold lead?
    simp only [UInt8.lt_iff_toNat_lt, ← UInt8.toNat_inj, UInt8.reduceToNat]
    grind
  obtain ⟨lead, hlead⟩ := Option.isSome_iff_exists.mp hsome
  exact ⟨lead, hlead, lead?_fits hlead⟩

theorem ofNat_eq {n : Nat} (hn : n % 256 = b.toNat) : UInt8.ofNat n = b := by
  rw [← UInt8.toNat_inj, UInt8.toNat_ofNat', hn]

theorem continuation_eq {n : Nat} (hb : 0x80 ≤ b ∧ b ≤ 0xBF) (hn : n % 64 = b.toNat % 64) :
    continuation n = b := by
  simp only [UInt8.le_iff_toNat_le, UInt8.reduceToNat] at hb
  exact ofNat_eq (by omega)

/-- A first byte and as many bytes as are due encode the character whose number they make. -/
theorem encodeChar_assemble (fits : lead.Fits b.toNat) (hlength : taken.length = lead.following)
    (follows : Follows lead.low lead.high taken) :
    encodeChar (Char.ofNat (assemble lead.bits taken)) = b :: taken := by
  cases fits with
  | one hb =>
      obtain rfl := List.length_eq_zero_iff.mp hlength
      have hn : (Char.ofNat b.toNat).toNat = b.toNat := toNat_ofNat (by omega)
      simp only [assemble, List.foldl_nil, encodeChar, hn, if_pos hb, UInt8.ofNat_toNat]
  | two hleast hmost =>
      obtain ⟨c, rfl⟩ := List.length_eq_one_iff.mp hlength
      obtain ⟨hc, -⟩ := follows
      have hv : assemble (b.toNat - 0xC0) [c] = (b.toNat - 0xC0) * 64 + c.toNat % 64 := rfl
      generalize assemble (b.toNat - 0xC0) [c] = v at hv ⊢
      have hn : (Char.ofNat v).toNat = v := toNat_ofNat (by omega)
      have hfirst : UInt8.ofNat (0xC0 + v / 64) = b := ofNat_eq (by omega)
      have hlast : continuation v = c := continuation_eq hc (by omega)
      simp only [encodeChar, hn]
      rw [if_neg (by omega), if_pos (by omega), hfirst, hlast]
  | three hleast hmost hlow hhigh =>
      obtain ⟨c, d, rfl⟩ := List.length_eq_two.mp hlength
      obtain ⟨⟨hc, hc'⟩, hd, -⟩ := follows
      simp only [UInt8.le_iff_toNat_le] at hc hc'
      have hbounds : 0x80 ≤ c.toNat ∧ c.toNat ≤ 0xBF ∧ (b.toNat = 0xE0 → 0xA0 ≤ c.toNat) ∧
          (b.toNat = 0xED → c.toNat ≤ 0x9F) := by
        split at hlow <;> split at hhigh <;> omega
      have hv : assemble (b.toNat - 0xE0) [c, d] =
          ((b.toNat - 0xE0) * 64 + c.toNat % 64) * 64 + d.toNat % 64 := rfl
      generalize assemble (b.toNat - 0xE0) [c, d] = v at hv ⊢
      have hn : (Char.ofNat v).toNat = v := toNat_ofNat (by omega)
      have hfirst : UInt8.ofNat (0xE0 + v / 4096) = b := ofNat_eq (by omega)
      have hnext : continuation (v / 64) = c := ofNat_eq (by omega)
      have hlast : continuation v = d := continuation_eq hd (by omega)
      simp only [encodeChar, hn]
      rw [if_neg (by omega), if_neg (by omega), if_pos (by omega), hfirst, hnext, hlast]
  | four hleast hmost hlow hhigh =>
      obtain ⟨c, d, e, rfl⟩ := List.length_eq_three.mp hlength
      obtain ⟨⟨hc, hc'⟩, hd, he, -⟩ := follows
      simp only [UInt8.le_iff_toNat_le] at hc hc'
      have hbounds : 0x80 ≤ c.toNat ∧ c.toNat ≤ 0xBF ∧ (b.toNat = 0xF0 → 0x90 ≤ c.toNat) ∧
          (b.toNat = 0xF4 → c.toNat ≤ 0x8F) := by
        split at hlow <;> split at hhigh <;> omega
      have hv : assemble (b.toNat - 0xF0) [c, d, e] =
          (((b.toNat - 0xF0) * 64 + c.toNat % 64) * 64 + d.toNat % 64) * 64 + e.toNat % 64 := rfl
      generalize assemble (b.toNat - 0xF0) [c, d, e] = v at hv ⊢
      have hn : (Char.ofNat v).toNat = v := toNat_ofNat (by omega)
      have hfirst : UInt8.ofNat (0xF0 + v / 262144) = b := ofNat_eq (by omega)
      have hnext : continuation (v / 4096) = c := ofNat_eq (by omega)
      have hthird : continuation (v / 64) = d := continuation_eq hd (by omega)
      have hlast : continuation v = e := continuation_eq he (by omega)
      simp only [encodeChar, hn]
      rw [if_neg (by omega), if_neg (by omega), if_neg (by omega), hfirst, hnext, hthird, hlast]

theorem toNat_continuation (n : Nat) : (continuation n).toNat = 0x80 + n % 64 := by
  rw [continuation, UInt8.toNat_ofNat']
  omega

theorem continuation_bounds (n : Nat) : 0x80 ≤ continuation n ∧ continuation n ≤ 0xBF := by
  simp only [UInt8.le_iff_toNat_le, toNat_continuation, UInt8.reduceToNat]
  omega

/-- The encoding of a character is a first byte with as many bytes behind it as are due, and its
number is the one that they make. -/
theorem lead?_of_encodeChar (h : encodeChar c = b :: taken) :
    ∃ lead, lead? b = some lead ∧ taken.length = lead.following ∧
      Follows lead.low lead.high taken ∧ Char.ofNat (assemble lead.bits taken) = c := by
  have hvalid := toNat_valid c
  have hsame {n : Nat} (hn : n = c.toNat) : Char.ofNat n = c := by rw [hn, Char.ofNat_toNat]
  simp only [encodeChar] at h
  split at h
  case isTrue hone =>
    obtain ⟨hfirst, rfl⟩ := List.cons.inj h
    have hb : b.toNat = c.toNat := by rw [← hfirst, UInt8.toNat_ofNat']; omega
    obtain ⟨lead, hlead, fits⟩ := @exists_fits b (by omega)
    refine ⟨lead, hlead, ?_⟩
    cases fits with
    | one => exact ⟨rfl, trivial, hsame hb⟩
    | two | three | four => omega
  split at h
  case isTrue htwo =>
    obtain ⟨hfirst, rfl⟩ := List.cons.inj h
    have hb : b.toNat = 0xC0 + c.toNat / 64 := by rw [← hfirst, UInt8.toNat_ofNat']; omega
    obtain ⟨lead, hlead, fits⟩ := @exists_fits b (by omega)
    refine ⟨lead, hlead, ?_⟩
    cases fits with
    | two =>
        refine ⟨rfl, ⟨continuation_bounds _, trivial⟩, hsame ?_⟩
        simp only [assemble, List.foldl_cons, List.foldl_nil, toNat_continuation]
        omega
    | one | three | four => omega
  split at h
  case isTrue hthree =>
    obtain ⟨hfirst, rfl⟩ := List.cons.inj h
    have hb : b.toNat = 0xE0 + c.toNat / 4096 := by rw [← hfirst, UInt8.toNat_ofNat']; omega
    obtain ⟨lead, hlead, fits⟩ := @exists_fits b (by omega)
    refine ⟨lead, hlead, ?_⟩
    cases fits with
    | three hleast hmost hlow hhigh =>
        refine ⟨rfl, ⟨?_, continuation_bounds _, trivial⟩, hsame ?_⟩
        · simp only [UInt8.le_iff_toNat_le, hlow, hhigh, toNat_continuation]
          split <;> split <;> omega
        · simp only [assemble, List.foldl_cons, List.foldl_nil, toNat_continuation]
          omega
    | one | two | four => omega
  case isFalse hfour =>
    obtain ⟨hfirst, rfl⟩ := List.cons.inj h
    have hb : b.toNat = 0xF0 + c.toNat / 262144 := by rw [← hfirst, UInt8.toNat_ofNat']; omega
    obtain ⟨lead, hlead, fits⟩ := @exists_fits b (by omega)
    refine ⟨lead, hlead, ?_⟩
    cases fits with
    | four hleast hmost hlow hhigh =>
        refine ⟨rfl, ⟨?_, continuation_bounds _, continuation_bounds _, trivial⟩, hsame ?_⟩
        · simp only [UInt8.le_iff_toNat_le, hlow, hhigh, toNat_continuation]
          split <;> split <;> omega
        · simp only [assemble, List.foldl_cons, List.foldl_nil, toNat_continuation]
          omega
    | one | two | three => omega

theorem encodeChar_ne_nil (c : Char) : encodeChar c ≠ [] := by
  unfold encodeChar
  grind

theorem low_le_high (fits : lead.Fits b.toNat) : lead.low ≤ lead.high := by
  rw [UInt8.le_iff_toNat_le]
  cases fits with
  | one | two => exact Nat.le_of_ble_eq_true rfl
  | three hleast hmost hlow hhigh | four hleast hmost hlow hhigh =>
      rw [hlow, hhigh]
      split <;> split <;> omega

/-- Bytes that may follow a first byte are all that follow it at the beginning of an encoding. -/
theorem begins_iff : Begins (b :: taken) ↔ ∃ lead, lead? b = some lead ∧
    taken.length ≤ lead.following ∧ Follows lead.low lead.high taken := by
  constructor
  · rintro ⟨c, rest, hencoded⟩
    obtain ⟨lead, hlead, hlength, follows, -⟩ := lead?_of_encodeChar hencoded.symm
    have hbegin : taken <+: taken.append rest := List.prefix_append taken rest
    exact ⟨lead, hlead, hlength ▸ hbegin.length_le, follows.of_prefix hbegin⟩
  · rintro ⟨lead, hlead, hlength, follows⟩
    have fits := lead?_fits hlead
    obtain ⟨more, hmore, hdue⟩ := follows.extend (low_le_high fits) hlength
    exact ⟨_, more, (encodeChar_assemble fits hdue hmore).symm⟩

/-- Where no further byte may follow, no more bytes begin an encoding. -/
theorem length_le_of_begins (hlead : lead? b = some lead)
    (hstop : ∀ next, rest.head? = some next → ¬ Follows lead.low lead.high (taken ++ [next]))
    {longer : List UInt8} (hlonger : longer <+: b :: taken ++ rest) (begins : Begins longer) :
    longer.length ≤ taken.length + 1 := by
  cases longer with
  | nil => exact Nat.zero_le _
  | cons first longer =>
      rw [List.cons_append, List.cons_prefix_cons] at hlonger
      obtain ⟨rfl, hlonger⟩ := hlonger
      obtain ⟨same, hsame, -, follows⟩ := begins_iff.mp begins
      obtain rfl : lead = same := Option.some.inj (hlead.symm.trans hsame)
      by_contra hmore
      -- one byte past the taken ones would follow as well
      have htaken : taken <+: longer :=
        List.prefix_of_prefix_length_le (List.prefix_append taken rest) hlonger
          (by simp only [List.length_cons] at hmore; omega)
      obtain ⟨beyond, rfl⟩ := htaken
      cases beyond with
      | nil => simp at hmore
      | cons next beyond =>
          rw [List.prefix_append_right_inj] at hlonger
          obtain ⟨behind, rfl⟩ := hlonger
          have hnext : taken ++ [next] <+: taken ++ next :: beyond := by simp
          exact hstop next rfl (follows.of_prefix hnext)

/-- No encoding of a character begins another one, so what stands in front can be told from what
is behind it. -/
theorem encodeChar_append_inj {d : Char} (h : encodeChar c ++ more = encodeChar d ++ rest) :
    c = d ∧ more = rest := by
  obtain ⟨b, taken, hc⟩ := List.exists_cons_of_ne_nil (encodeChar_ne_nil c)
  obtain ⟨first, others, hd⟩ := List.exists_cons_of_ne_nil (encodeChar_ne_nil d)
  rw [hc, hd, List.cons_append, List.cons_append] at h
  obtain ⟨rfl, htail⟩ := List.cons.inj h
  obtain ⟨lead, hlead, hlength, -, hchar⟩ := lead?_of_encodeChar hc
  obtain ⟨same, hsame, hlength', -, hchar'⟩ := lead?_of_encodeChar hd
  obtain rfl : lead = same := Option.some.inj (hlead.symm.trans hsame)
  obtain ⟨rfl, rfl⟩ := List.append_inj htail (hlength.trans hlength'.symm)
  exact ⟨hchar.symm.trans hchar', rfl⟩

theorem broken_of_lead?_eq_none (hlead : lead? b = none) : Broken [b] rest := by
  have hnot {taken : List UInt8} : ¬ Begins (b :: taken) := by
    rw [begins_iff]
    rintro ⟨lead, hsome, -⟩
    rw [hlead] at hsome
    cases hsome
  refine ⟨?_, by simp, Or.inr rfl, ?_⟩
  · intro c hencoded
    obtain ⟨first, taken, hc⟩ := List.exists_cons_of_ne_nil (encodeChar_ne_nil c)
    rw [hc, List.cons_append, List.cons_prefix_cons] at hencoded
    obtain ⟨rfl, -⟩ := hencoded
    exact hnot ⟨c, [], by rw [List.append_nil, hc]⟩
  · intro longer hlonger begins
    cases longer with
    | nil => exact Nat.zero_le _
    | cons first taken =>
        rw [List.cons_append, List.cons_prefix_cons] at hlonger
        exact absurd (hlonger.1 ▸ begins) hnot

theorem broken_of_short (hlead : lead? b = some lead) (hshort : taken.length < lead.following)
    (follows : Follows lead.low lead.high taken)
    (hstop : ∀ next, rest.head? = some next → ¬ Follows lead.low lead.high (taken ++ [next])) :
    Broken (b :: taken) rest := by
  refine ⟨?_, by simp, Or.inl (begins_iff.mpr ⟨lead, hlead, Nat.le_of_lt hshort, follows⟩), ?_⟩
  · intro c hencoded
    have hlength := length_le_of_begins hlead hstop hencoded ⟨c, List.prefix_rfl⟩
    obtain ⟨first, others, hc⟩ := List.exists_cons_of_ne_nil (encodeChar_ne_nil c)
    rw [hc, List.cons_append, List.cons_prefix_cons] at hencoded
    obtain ⟨same, hsame, hdue, -⟩ := lead?_of_encodeChar hc
    obtain rfl : lead = same := Option.some.inj (hlead.symm.trans (hencoded.1 ▸ hsame))
    rw [hc, List.length_cons] at hlength
    omega
  · intro longer hlonger begins
    exact length_le_of_begins hlead hstop hlonger begins

/-- One step of reading takes an encoded character, or else a broken piece. -/
theorem decodePieces_front (b : UInt8) (bs : List UInt8) :
    (∃ c rest, b :: bs = encodeChar c ++ rest ∧
        decodePieces (b :: bs) = some c :: decodePieces rest) ∨
      ∃ piece rest, b :: bs = piece ++ rest ∧ Broken piece rest ∧
        decodePieces (b :: bs) = none :: decodePieces rest := by
  cases hlead : lead? b with
  | none =>
      refine Or.inr ⟨[b], bs, rfl, broken_of_lead?_eq_none hlead, ?_⟩
      rw [decodePieces, hlead]
  | some lead =>
      obtain ⟨taken, rest, rfl, follows, hread⟩ :=
        follow_cases lead.bits lead.low lead.high lead.following bs
      rcases hread with ⟨hlength, hread⟩ | ⟨hshort, hread, hstop⟩
      · have hencoded := encodeChar_assemble (lead?_fits hlead) hlength follows
        refine Or.inl ⟨Char.ofNat (assemble lead.bits taken), rest, ?_, ?_⟩
        · rw [hencoded, List.cons_append]
        · rw [decodePieces, hlead]
          simp only [hread, Option.map_some]
      · refine Or.inr ⟨b :: taken, rest, rfl, broken_of_short hlead hshort follows hstop, ?_⟩
        rw [decodePieces, hlead]
        simp only [hread, Option.map_none]

theorem decodePieces_encodeChar_append (c : Char) (rest : List UInt8) :
    decodePieces (encodeChar c ++ rest) = some c :: decodePieces rest := by
  obtain ⟨b, taken, hc⟩ := List.exists_cons_of_ne_nil (encodeChar_ne_nil c)
  have hfront := decodePieces_front b (taken ++ rest)
  rw [← List.cons_append, ← hc] at hfront
  rcases hfront with ⟨d, more, hsame, hread⟩ | ⟨piece, more, hsame, broken, -⟩
  · obtain ⟨rfl, rfl⟩ := encodeChar_append_inj hsame
    exact hread
  · exact absurd (hsame ▸ List.prefix_append _ _) (broken.unencoded c)

/-- Of two broken pieces in front of the same bytes neither is longer. -/
theorem Broken.length_le {piece other : List UInt8} (broken : Broken piece rest)
    (hother : Broken other more) (hsame : piece ++ rest = other ++ more) :
    other.length ≤ piece.length := by
  rcases hother.begins with begins | hone
  · exact broken.longest other (hsame ▸ List.prefix_append other more) begins
  · have hpositive := List.length_pos_of_ne_nil broken.nonempty
    omega

theorem decodePieces_of_broken {piece : List UInt8} (broken : Broken piece rest) :
    decodePieces (piece ++ rest) = none :: decodePieces rest := by
  obtain ⟨b, taken, rfl⟩ := List.exists_cons_of_ne_nil broken.nonempty
  rcases decodePieces_front b (taken ++ rest) with
    ⟨c, more, hsame, -⟩ | ⟨other, more, hsame, hother, hread⟩
  · have hencoded : encodeChar c <+: b :: taken ++ rest :=
      List.cons_append ▸ hsame ▸ List.prefix_append (encodeChar c) more
    exact absurd hencoded (broken.unencoded c)
  · rw [← List.cons_append] at hsame hread
    have hlength : (b :: taken).length = other.length :=
      Nat.le_antisymm (hother.length_le broken hsame.symm) (broken.length_le hother hsame)
    obtain ⟨rfl, rfl⟩ := List.append_inj hsame hlength
    exact hread

/-- What the lenient reader makes of bytes is what they are read as. -/
theorem reads_decodePieces (bs : List UInt8) :
    Reads bs ((decodePieces bs).map fun piece => piece.getD replacement) := by
  induction hlength : bs.length using Nat.strongRecOn generalizing bs with
  | ind n ih =>
      cases bs with
      | nil => rw [decodePieces]; exact .nil
      | cons b bs =>
          rcases decodePieces_front b bs with
            ⟨c, rest, hbs, hread⟩ | ⟨piece, rest, hbs, broken, hread⟩
          · have hpositive := List.length_pos_of_ne_nil (encodeChar_ne_nil c)
            rw [hbs, List.length_append] at hlength
            rw [hread, hbs]
            exact .char c (ih rest.length (by omega) rest rfl)
          · have hpositive := List.length_pos_of_ne_nil broken.nonempty
            rw [hbs, List.length_append] at hlength
            rw [hread, hbs]
            exact .broken broken (ih rest.length (by omega) rest rfl)

/-- There is one way to cut bytes into characters and broken pieces. -/
theorem Reads.eq_decodePieces {cs : List Char} (reads : Reads bs cs) :
    cs = (decodePieces bs).map fun piece => piece.getD replacement := by
  induction reads with
  | nil => rw [decodePieces, List.map_nil]
  | char c _ ih => rw [decodePieces_encodeChar_append, List.map_cons, ← ih, Option.getD_some]
  | broken hpiece _ ih => rw [decodePieces_of_broken hpiece, List.map_cons, ← ih, Option.getD_none]

theorem reads_iff {cs : List Char} : Reads bs cs ↔ (decodeLenient bs).toList = cs := by
  rw [decodeLenient, String.toList_ofList]
  constructor
  · intro reads
    exact reads.eq_decodePieces.symm
  · rintro rfl
    exact reads_decodePieces bs

theorem reads_encodeChars (cs : List Char) : Reads (encodeChars cs) cs := by
  induction cs with
  | nil => exact .nil
  | cons c cs ih =>
      rw [encodeChars, List.flatMap_cons]
      exact .char c ih

/-- Text that was encoded comes back as it was. -/
theorem decodeLenient_encode (s : String) : decodeLenient (encode s) = s := by
  have hread := reads_iff.mp (reads_encodeChars s.toList)
  exact String.toList_inj.mp hread

end ServiceDiscovery.Text.Utf8
