import TezosNode.Proofs.Url.Origin

set_option autoImplicit false

/-!
# URL: names that stand for themselves

A name that is put into a path is read as itself just if it is literal: it has none of the
marks that end a path, no encoded octet, and no segment of dots.  All that happens to a path
that is not literal takes characters of ASCII away from it, and nothing adds any, so that no
step can make good what another one has changed.
-/

namespace TezosNode.Url

open Text.Utf8

/-! ## Marks -/

/-- Whether a text has a mark that ends a path. -/
def hasMark (text : List Char) : Bool := text.any fun c => c == '?' || c == '#'

/-- A text without marks is all path. -/
theorem splitPath_of_hasMark {text : List Char} (hnone : hasMark text = false) :
    splitPath text = (text, none, none) := by
  have hall : (text.takeWhile fun c => c != '?' && c != '#') = text := by
    rw [List.takeWhile_eq_self_iff]
    intro c hmem
    have hc := List.any_eq_false.1 hnone c hmem
    simpa using hc
  unfold splitPath
  dsimp only
  rw [hall, List.drop_length]

/-- A mark that ends a path is not part of it. -/
theorem asciiCount_splitPath_le (text : List Char) :
    asciiCount (splitPath text).1 + (hasMark text).toNat ≤ asciiCount text := by
  rw [splitPath_fst]
  induction text with
  | nil => exact Nat.le_refl 0
  | cons c rest ih =>
    rw [asciiCount_cons]
    by_cases hmark : c = '?' ∨ c = '#'
    · rcases hmark with rfl | rfl <;> exact Nat.le_add_right 1 _
    · have hkept : (c != '?' && c != '#') = true := by simpa using hmark
      have hrest : hasMark (c :: rest) = hasMark rest := by simp_all [hasMark]
      rw [List.takeWhile_cons, if_pos hkept, asciiCount_cons, hrest]
      omega

/-! ## Segments -/

/-- Whether a segment has a meaning of its own. -/
def isDots (segment : List Char) : Bool := segment == ['.'] || segment == ['.', '.']

/-- Whether a path has segments of dots. -/
def hasDots (path : List Char) : Bool := (path.splitOn '/').any isDots

theorem resolveDots_eq (path : List Char) :
    resolveDots path =
      if hasDots path then ['/'].intercalate ((path.splitOn '/').foldl addSegment []).reverse
      else path := by
  have hdots : ((path.splitOn '/').contains ['.'] || (path.splitOn '/').contains ['.', '.']) =
      hasDots path := by
    rw [Bool.eq_iff_iff]
    simp only [hasDots, isDots, Bool.or_eq_true, List.contains_iff_mem, List.any_eq_true,
      beq_iff_eq]
    constructor
    · rintro (hdot | hdots)
      · exact ⟨_, hdot, .inl rfl⟩
      · exact ⟨_, hdots, .inr rfl⟩
    · rintro ⟨segment, hmem, rfl | rfl⟩
      · exact .inl hmem
      · exact .inr hmem
  rw [resolveDots, hdots]

/-- A path without segments of dots stays as it is. -/
theorem resolveDots_of_hasDots {path : List Char} (hnone : hasDots path = false) :
    resolveDots path = path := by
  rw [resolveDots_eq, hnone]
  rfl

/-- The characters of ASCII in segments, each with the slash that ends it. -/
def weight : List (List Char) → Nat
  | [] => 0
  | segment :: rest => asciiCount segment + 1 + weight rest

theorem weight_append (segments more : List (List Char)) :
    weight (segments ++ more) = weight segments + weight more := by
  induction segments with
  | nil => exact (Nat.zero_add _).symm
  | cons segment rest ih =>
    rw [List.cons_append, weight, weight, ih, Nat.add_assoc _ (weight rest)]

theorem weight_reverse (segments : List (List Char)) :
    weight segments.reverse = weight segments := by
  induction segments with
  | nil => rfl
  | cons segment rest ih =>
    rw [List.reverse_cons, weight_append, ih, weight, Nat.add_comm]
    rfl

/-- The last segment is ended by no slash. -/
theorem asciiCount_intercalate (segments : List (List Char)) :
    asciiCount (['/'].intercalate segments) = weight segments - 1 := by
  induction segments with
  | nil => rfl
  | cons segment rest ih =>
    cases rest with
    | nil => simp [weight]
    | cons next rest =>
      rw [List.intercalate_cons_cons, asciiCount_append, asciiCount_append, ih]
      simp only [weight]
      have hslash : asciiCount ['/'] = 1 := rfl
      omega

/-- A segment of dots adds nothing, and its own two or three characters are gone. -/
theorem weight_addSegment_le (segments : List (List Char)) (segment : List Char) :
    weight (addSegment segments segment) + 2 * (isDots segment).toNat ≤
      weight segments + (asciiCount segment + 1) := by
  unfold addSegment
  by_cases hdot : segment = ['.']
  · rw [if_pos hdot, hdot]
    exact Nat.le_refl _
  by_cases hdots : segment = ['.', '.']
  · rw [if_neg hdot, if_pos hdots, hdots]
    have hless : weight (if segments = [[]] then segments else segments.drop 1) ≤
        weight segments := by
      split
      · exact Nat.le_refl _
      · cases segments with
        | nil => exact Nat.le_refl _
        | cons last rest =>
          rw [weight]
          exact Nat.le_add_left _ _
    exact Nat.add_le_add hless (by decide)
  · have hnone : isDots segment = false := by simp [isDots, hdot, hdots]
    rw [if_neg hdot, if_neg hdots, hnone, weight, Nat.add_comm (weight segments)]
    exact Nat.le_refl _

theorem weight_foldl_le (before segments : List (List Char)) :
    weight (segments.foldl addSegment before) + 2 * (segments.any isDots).toNat ≤
      weight before + weight segments := by
  induction segments generalizing before with
  | nil => exact Nat.le_refl _
  | cons segment rest ih =>
    have hrest := ih (addSegment before segment)
    have hfirst := weight_addSegment_le before segment
    rw [List.foldl_cons, List.any_cons, weight]
    have hor : (isDots segment || rest.any isDots).toNat ≤
        (isDots segment).toNat + (rest.any isDots).toNat := by
      cases isDots segment <;> cases rest.any isDots <;> decide
    omega

/-- Segments of dots do not stay in a path. -/
theorem asciiCount_resolveDots_le (path : List Char) :
    asciiCount (resolveDots path) + (hasDots path).toNat ≤ asciiCount path := by
  rw [resolveDots_eq]
  cases hdots : hasDots path with
  | false => exact Nat.le_refl _
  | true =>
    have hpath : asciiCount path = weight (path.splitOn '/') - 1 := by
      rw [← asciiCount_intercalate, List.intercalate_splitOn]
    have hweight := weight_foldl_le [] (path.splitOn '/')
    rw [show (path.splitOn '/').any isDots = true from hdots] at hweight
    have hnone : weight [] = 0 := rfl
    rw [if_pos rfl, asciiCount_intercalate, weight_reverse, hpath, Bool.toNat_true]
    rw [Bool.toNat_true] at hweight
    omega

/-! ## Encoded octets -/

/-- Whether an encoded octet stands anywhere in a text. -/
def hasOctet : List Char → Bool
  | [] => false
  | c :: rest => (encodedOctet? (c :: rest)).isSome || hasOctet rest

/-- Three characters are read as one octet where an encoded one stands. -/
theorem asciiOctets_percentOctets_le (text : List Char) :
    asciiOctets (percentOctets text) + (hasOctet text).toNat ≤ asciiCount text := by
  induction text using percent_induction with
  | nil => exact Nat.le_refl 0
  | octet a b n rest hnumber ih =>
    obtain ⟨ha, hb⟩ := isSome_hexValue?_of_hexNumber? hnumber
    have hthree : asciiCount ('%' :: a :: b :: rest) = asciiCount rest + 3 := by
      simp [asciiCount, toNat_lt_of_isSome_hexValue? ha, toNat_lt_of_isSome_hexValue? hb]
    have hone : asciiOctets [UInt8.ofNat n] ≤ 1 := List.countP_le_length
    have hcons : asciiOctets (UInt8.ofNat n :: percentOctets rest) =
        asciiOctets [UInt8.ofNat n] + asciiOctets (percentOctets rest) :=
      asciiOctets_append [UInt8.ofNat n] (percentOctets rest)
    have hfound := Bool.toNat_le (hasOctet ('%' :: a :: b :: rest))
    rw [percentOctets_octet rest hnumber, hcons, hthree]
    omega
  | char c rest hnone ih =>
    have hchar := asciiOctets_utf8EncodeChar_le c
    rw [percentOctets_char hnone, asciiOctets_append, hasOctet, hnone, asciiCount_cons]
    change _ + (hasOctet rest).toNat ≤ _
    omega

/-- Octets that are read as a text have no more characters of ASCII than they were written
with. -/
theorem asciiCount_percentDecode_le (text : List Char) :
    asciiCount (percentDecode text) + (hasOctet text).toNat ≤ asciiCount text := by
  have hread := asciiCount_decodeLossy_le (percentOctets text)
  have hoctets := asciiOctets_percentOctets_le text
  rw [percentDecode]
  omega

/-- A text without encoded octets is read as itself. -/
theorem percentDecode_of_hasOctet {text : List Char} (hnone : hasOctet text = false) :
    percentDecode text = text := by
  have hoctets : percentOctets text = encode text := by
    induction text using percent_induction with
    | nil => rfl
    | octet a b n rest hnumber ih =>
      rw [hasOctet, encodedOctet?, hnumber] at hnone
      cases hnone
    | char c rest hnone' ih =>
      rw [hasOctet, hnone'] at hnone
      rw [percentOctets_char hnone', ih hnone, encode, encode, List.flatMap_cons]
  rw [percentDecode, hoctets, decodeLossy_encode]

/-! ## Literal names -/

/-- Whether a name stands for itself in a path. -/
structure IsLiteral (name : List Char) : Prop where
  hasMark_eq : hasMark name = false
  hasOctet_eq : hasOctet name = false
  hasDots_eq : hasDots name = false

instance (name : List Char) : Decidable (IsLiteral name) :=
  decidable_of_iff (hasMark name = false ∧ hasOctet name = false ∧ hasDots name = false)
    ⟨fun ⟨hmark, hoctet, hdots⟩ => ⟨hmark, hoctet, hdots⟩,
      fun ⟨hmark, hoctet, hdots⟩ => ⟨hmark, hoctet, hdots⟩⟩

/-- A slash ends every encoding. -/
theorem encodedOctet?_append_slash (text more : List Char) :
    encodedOctet? (text ++ '/' :: more) = encodedOctet? text := by
  have hnone : ∀ a b, a = '/' ∨ b = '/' → Text.hexNumber? [a, b] = none := by
    intro a b hslash
    cases hnumber : Text.hexNumber? [a, b] with
    | none => rfl
    | some n =>
      obtain ⟨ha, hb⟩ := isSome_hexValue?_of_hexNumber? hnumber
      rcases hslash with rfl | rfl
      · cases ha
      · cases hb
  cases text with
  | nil => exact encodedOctet?_of_ne (by decide)
  | cons c rest =>
    by_cases hc : c = '%'
    · subst hc
      match rest with
      | [] =>
        cases more with
        | nil => rfl
        | cons b more => exact hnone '/' b (.inl rfl)
      | [a] => exact hnone a '/' (.inr rfl)
      | a :: b :: _ => rfl
    · rw [encodedOctet?_of_ne hc, List.cons_append, encodedOctet?_of_ne hc]

theorem hasOctet_append_slash (text more : List Char) :
    hasOctet (text ++ '/' :: more) = (hasOctet text || hasOctet more) := by
  induction text with
  | nil =>
    have hslash : encodedOctet? ('/' :: more) = none := encodedOctet?_of_ne (by decide)
    change ((encodedOctet? ('/' :: more)).isSome || hasOctet more) = hasOctet more
    rw [hslash]
    rfl
  | cons c rest ih =>
    rw [List.cons_append, hasOctet, hasOctet, ih, ← List.cons_append,
      encodedOctet?_append_slash, Bool.or_assoc]

/-- Names on the two sides of a slash are literal just if both are. -/
theorem isLiteral_append_slash_iff {text more : List Char} :
    IsLiteral (text ++ '/' :: more) ↔ IsLiteral text ∧ IsLiteral more := by
  have hmark : hasMark (text ++ '/' :: more) = (hasMark text || hasMark more) := by
    simp [hasMark]
  have hdots : hasDots (text ++ '/' :: more) = (hasDots text || hasDots more) := by
    rw [hasDots, List.splitOn_append_cons_self, List.any_append]
    rfl
  constructor
  · rintro ⟨hmarks, hoctets, hsegments⟩
    rw [hmark, Bool.or_eq_false_iff] at hmarks
    rw [hasOctet_append_slash, Bool.or_eq_false_iff] at hoctets
    rw [hdots, Bool.or_eq_false_iff] at hsegments
    exact ⟨⟨hmarks.1, hoctets.1, hsegments.1⟩, ⟨hmarks.2, hoctets.2, hsegments.2⟩⟩
  · rintro ⟨htext, hmore⟩
    refine ⟨?_, ?_, ?_⟩
    · rw [hmark, htext.hasMark_eq, hmore.hasMark_eq]; rfl
    · rw [hasOctet_append_slash, htext.hasOctet_eq, hmore.hasOctet_eq]; rfl
    · rw [hdots, htext.hasDots_eq, hmore.hasDots_eq]; rfl

/-! ## Paths after hosts -/

/-- Whether the URL of a host is a scheme and an authority alone. -/
def IsPlain (url : List Char) : Prop :=
  ∃ start scheme authority, IsWebStart start scheme ∧ url = start ++ authority ∧
    authority.any endsAuthority = false

theorem split_of_isPlain {url path : List Char} (hplain : IsPlain url)
    (hslash : path.head? = some '/') :
    ∃ scheme authority, scheme ≠ [] ∧ split (url ++ path) =
      ⟨scheme, authority, (splitPath path).1, (splitPath path).2.1, (splitPath path).2.2⟩ := by
  obtain ⟨start, scheme, authority, hstart, rfl, hauthority⟩ := hplain
  obtain ⟨more, rfl⟩ := List.head?_eq_some_iff.1 hslash
  refine ⟨scheme, authority, hstart.scheme_ne_nil, ?_⟩
  have hall : ∀ c ∈ authority, (!endsAuthority c) = true := by
    intro c hmem
    have hc := List.any_eq_false.1 hauthority c hmem
    simpa using hc
  rw [List.append_assoc, hstart.split_eq, List.takeWhile_append_of_pos hall,
    List.dropWhile_append_of_pos hall, List.takeWhile_cons_of_neg (by decide),
    List.dropWhile_cons_of_neg (by decide), List.append_nil]

/-- Path and query of a URL that was read from a plain host and a path. -/
theorem path_of_parse {url path : List Char} {u : Url} (hplain : IsPlain url)
    (hslash : path.head? = some '/') (hread : parse (url ++ path) = .ok u) :
    u.path = percentEncode inPath (resolveDots (splitPath path).1) ∧
      u.query = (splitPath path).2.1.map (percentEncode inQuery) := by
  obtain ⟨scheme, authority, hscheme, hsplit⟩ := split_of_isPlain hplain hslash
  obtain ⟨-, -, hparts⟩ := parse_eq_ok_iff.1 hread
  rw [hsplit] at hparts
  obtain ⟨-, -, -, -, -, hpath, hquery, -⟩ := exists_of_ofParts hparts
  refine ⟨?_, hquery⟩
  rw [hpath, if_pos (by simp [hscheme])]

/-- An empty path is read as the root, any other one as what was encoded. -/
theorem decodedPath_of_path {u : Url} {path : List Char}
    (hpath : u.path = percentEncode inPath path) :
    u.decodedPath = percentDecode (if path = [] then ['/'] else path) := by
  have hempty : u.path.isEmpty = true ↔ path = [] := by
    rw [List.isEmpty_iff, hpath, percentEncode_eq_nil_iff]
  unfold decodedPath
  by_cases hnil : path = []
  · rw [if_pos (hempty.2 hnil), if_pos hnil]
  · rw [if_neg (fun hencoded => hnil (hempty.1 hencoded)), if_neg hnil, hpath,
      percentDecode_percentEncode_inPath]

/-- The path of a URL that was read from a plain host and a path is this path, and the query
is empty, just if the path is literal. -/
theorem decodedPath_eq_iff {url path : List Char} {u : Url} (hplain : IsPlain url)
    (hslash : path.head? = some '/') (hread : parse (url ++ path) = .ok u) :
    u.decodedPath = path ∧ u.queryText = [] ↔ IsLiteral path := by
  obtain ⟨hpath, hquery⟩ := path_of_parse hplain hslash hread
  constructor
  · rintro ⟨hdecoded, -⟩
    rw [decodedPath_of_path hpath] at hdecoded
    have hmark := asciiCount_splitPath_le path
    have hdots := asciiCount_resolveDots_le (splitPath path).1
    have hoctet := asciiCount_percentDecode_le (resolveDots (splitPath path).1)
    by_cases hnil : resolveDots (splitPath path).1 = []
    · -- The path would be the root, which is not resolved to nothing.
      rw [if_pos hnil] at hdecoded
      rw [← hdecoded] at hnil
      exact absurd hnil (by decide)
    -- What is left after every step has all characters of ASCII, so that no step took any.
    rw [if_neg hnil] at hdecoded
    rw [hdecoded] at hoctet
    have hnoMark : hasMark path = false := by
      rw [← Bool.toNat_eq_zero]
      omega
    have hall : (splitPath path).1 = path := by rw [splitPath_of_hasMark hnoMark]
    rw [hall] at hdots hoctet
    have hnoDots : hasDots path = false := by
      rw [← Bool.toNat_eq_zero]
      omega
    rw [resolveDots_of_hasDots hnoDots] at hoctet
    refine ⟨hnoMark, ?_, hnoDots⟩
    rw [← Bool.toNat_eq_zero]
    omega
  · intro hliteral
    have hsplit := splitPath_of_hasMark hliteral.hasMark_eq
    have hnil : path ≠ [] := by
      rintro rfl
      cases hslash
    rw [hsplit] at hpath hquery
    rw [resolveDots_of_hasDots hliteral.hasDots_eq] at hpath
    refine ⟨?_, ?_⟩
    · rw [decodedPath_of_path hpath, if_neg hnil, percentDecode_of_hasOctet hliteral.hasOctet_eq]
    · rw [queryText, hquery]
      rfl

end TezosNode.Url
