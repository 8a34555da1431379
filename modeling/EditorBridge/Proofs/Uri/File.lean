import EditorBridge.Proofs.Path
import EditorBridge.Proofs.Text.Utf8
import EditorBridge.Resolver

/-!
# The URIs of files

The URI of a file holds its path name by name, with the bytes of each name escaped where they have
to be. The escapes are decoded over the whole text of the URI at once. Since no name has a slash in
it and each `%` is escaped, this gives the path back.
-/

namespace EditorBridge

/-! ## Escapes -/

namespace Percent

variable {special : Char → Bool} {c : Char}

theorem decodeBytes_cons {b : UInt8} (hb : b ≠ 0x25) (rest : List UInt8) :
    decodeBytes (b :: rest) = b :: decodeBytes rest := by
  match rest with
  | [] => rfl
  | [_] => rfl
  | x :: y :: rest =>
    rw [decodeBytes]
    simp [beq_false_of_ne hb]

/-- A hexadecimal digit is one byte, with the number that it stands for as its value. -/
theorem utf8EncodeChar_hexDigit : ∀ n < 16,
    String.utf8EncodeChar (hexDigit n) = [UInt8.ofNat (hexDigit n).toNat] ∧
      hexValue? (UInt8.ofNat (hexDigit n).toNat) = some (UInt8.ofNat n) := by
  decide

theorem decodeBytes_escape (b : UInt8) (rest : List UInt8) :
    decodeBytes (Text.Utf8.encode (escape b) ++ rest) = b :: decodeBytes rest := by
  have hb : b.toNat < 256 := b.toNat_lt
  obtain ⟨hhigh, hhighValue⟩ := utf8EncodeChar_hexDigit (b.toNat / 16) (by omega)
  obtain ⟨hlow, hlowValue⟩ := utf8EncodeChar_hexDigit (b.toNat % 16) (by omega)
  have hmark : String.utf8EncodeChar '%' = [0x25] := by decide
  have hvalue : UInt8.ofNat (b.toNat / 16) * 16 + UInt8.ofNat (b.toNat % 16) = b := by
    apply UInt8.toNat.inj
    simp only [UInt8.toNat_add, UInt8.toNat_mul, UInt8.toNat_ofNat', UInt8.reduceToNat]
    omega
  simp only [escape, Text.Utf8.encode_cons, Text.Utf8.encode_nil, hmark, hhigh, hlow,
    List.append_nil, List.cons_append, List.nil_append]
  rw [decodeBytes, hhighValue, hlowValue]
  simp [hvalue]

theorem decodeBytes_escapes (bs rest : List UInt8) :
    decodeBytes (Text.Utf8.encode (bs.flatMap escape) ++ rest) = bs ++ decodeBytes rest := by
  induction bs with
  | nil => rfl
  | cons b bs ih =>
    rw [List.flatMap_cons, Text.Utf8.encode_append, List.append_assoc, decodeBytes_escape, ih,
      List.cons_append]

/-- A plain character is one byte that decoding leaves alone. -/
theorem decodeBytes_utf8EncodeChar (hc : c.toNat < 0x80) (hne : c ≠ '%') (rest : List UInt8) :
    decodeBytes (String.utf8EncodeChar c ++ rest) =
      String.utf8EncodeChar c ++ decodeBytes rest := by
  have hbytes : String.utf8EncodeChar c = [UInt8.ofNat c.toNat] := if_pos (Nat.le_of_lt_succ hc)
  have hbyte : UInt8.ofNat c.toNat ≠ 0x25 := by
    intro heq
    have hval := congrArg UInt8.toNat heq
    rw [Text.Utf8.toNat_ofNat (by omega)] at hval
    exact hne (Char.toNat_inj.1 hval)
  rw [hbytes, List.singleton_append, List.singleton_append, decodeBytes_cons hbyte]

/-- An escaped text decodes to the bytes of the text, if the mark of escapes is escaped itself. -/
theorem decodeBytes_encode (hmark : special '%') (cs : List Char) (rest : List UInt8) :
    decodeBytes (Text.Utf8.encode (encode special cs) ++ rest) =
      Text.Utf8.encode cs ++ decodeBytes rest := by
  induction cs with
  | nil => rfl
  | cons c cs ih =>
    have hcons : encode special (c :: cs) =
        (if c.toNat < 0x80 ∧ ¬special c then [c] else (String.utf8EncodeChar c).flatMap escape) ++
          encode special cs := List.flatMap_cons
    rw [hcons, Text.Utf8.encode_append, List.append_assoc, Text.Utf8.encode_cons, List.append_assoc]
    split
    case isTrue h =>
      have hne : c ≠ '%' := by
        rintro rfl
        exact h.2 hmark
      rw [Text.Utf8.encode_cons, Text.Utf8.encode_nil, List.append_nil,
        decodeBytes_utf8EncodeChar h.1 hne, ih]
    case isFalse => rw [decodeBytes_escapes, ih]

end Percent

namespace Uri

/-! ## Texts and paths -/

/-- The text of a path. -/
def UriPath.chars : UriPath → List Char
  | .segments list => segmentsText list
  | .rootless text => text

/-- The path of a URI with its escapes decoded, if that is a text. -/
def decodedPath? (u : Uri) : Option (List Char) := Text.Utf8.decode? (Percent.decode u.path.chars)

/-- The URI of a file by a path from the root that has neither empty pieces nor dots to fold. -/
def NamesFile (u : Uri) : Prop :=
  "file:///".toList <+: u.chars ∧ ∃ path, u.decodedPath? = some path ∧ Path.IsCanonical path

variable {f : Folded} {u : Uri} {names : List (List Char)}

theorem segmentsText_eq_cons (hne : names ≠ []) :
    segmentsText names = '/' :: Text.join ['/'] names := by
  induction names with
  | nil => exact absurd rfl hne
  | cons name names ih =>
    cases names with
    | nil => simp [segmentsText]
    | cons next names =>
      have hnext := ih (by simp)
      simp only [segmentsText, List.flatMap_cons] at hnext ⊢
      simp [hnext]

theorem decodeBytes_segmentsText (names : List (List Char)) (rest : List UInt8) :
    Percent.decodeBytes
        (Text.Utf8.encode (segmentsText (names.map (Percent.encode Percent.inSegment))) ++ rest) =
      Text.Utf8.encode (segmentsText names) ++ Percent.decodeBytes rest := by
  induction names with
  | nil => rfl
  | cons name names ih =>
    rw [segmentsText, segmentsText] at ih
    rw [List.map_cons, segmentsText, segmentsText, List.flatMap_cons, List.flatMap_cons,
      List.cons_append, List.cons_append, Text.Utf8.encode_cons, Text.Utf8.encode_cons,
      Text.Utf8.encode_append, Text.Utf8.encode_append, List.append_assoc, List.append_assoc,
      Percent.decodeBytes_utf8EncodeChar (by decide) (by decide),
      Percent.decodeBytes_encode (by decide), ih]
    simp

/-- The URI of a folded path has the path after `file://`, escaped. -/
theorem exists_of_ofFolded? (h : ofFolded? f = some u) : ∃ rest,
    u.path.chars = '/' :: rest ∧ u.chars = "file://".toList ++ '/' :: rest ∧
      Percent.decode ('/' :: rest) = Text.Utf8.encode f.text := by
  obtain ⟨rooted, names⟩ := f
  cases rooted with
  | false => cases h
  | true =>
    obtain rfl := Option.some.inj h
    by_cases hnil : names = []
    · subst hnil
      exact ⟨[], rfl, rfl, by decide⟩
    · have hchars : (ofSegments (names.map (Percent.encode Percent.inSegment))).chars =
          "file://".toList ++ segmentsText (names.map (Percent.encode Percent.inSegment)) := by
        simp [ofSegments, chars, hierarchy, marked, Authority.text, Authority.empty, fileScheme]
      have hcons : segmentsText (names.map (Percent.encode Percent.inSegment)) =
          '/' :: Text.join ['/'] (names.map (Percent.encode Percent.inSegment)) :=
        segmentsText_eq_cons (by simpa using hnil)
      have hdecode := decodeBytes_segmentsText names []
      rw [List.append_nil, hcons, segmentsText_eq_cons hnil] at hdecode
      rw [if_neg hnil]
      refine ⟨_, hcons, hchars.trans (by rw [hcons]), ?_⟩
      rw [Percent.decode, hdecode]
      exact List.append_nil _

theorem decodedPath?_of_ofFolded? (h : ofFolded? f = some u) : u.decodedPath? = some f.text := by
  obtain ⟨rest, hpath, -, hdecode⟩ := exists_of_ofFolded? h
  rw [decodedPath?, hpath, hdecode, Text.Utf8.decode?_encode]

/-- The path in the text of the URI of a file is the path of the file, less its slash if a drive
follows. -/
theorem localPath_of_ofFolded? (h : ofFolded? f = some u) :
    localPath u.chars = if hasDrive f.text then f.text.drop 1 else f.text := by
  obtain ⟨rest, -, hchars, hdecode⟩ := exists_of_ofFolded? h
  have hwhole : Percent.decode u.chars = Text.Utf8.encode ("file://".toList ++ f.text) := by
    rw [hchars, Text.Utf8.encode_append, ← hdecode]
    simp [Percent.decode, Percent.decodeBytes_utf8EncodeChar]
  have hdrop : Text.dropPrefix? "file://".toList ("file://".toList ++ f.text) = some f.text :=
    Text.dropPrefix?_eq_some.2 rfl
  rw [localPath, hwhole, Text.Utf8.decode?_encode, Option.getD_some]
  simp only [hdrop]

theorem namesFile_of_ofFolded? (hf : f.Proper) (h : ofFolded? f = some u) : u.NamesFile := by
  obtain ⟨rest, -, hchars, -⟩ := exists_of_ofFolded? h
  refine ⟨⟨rest, by simp [hchars]⟩, f.text, decodedPath?_of_ofFolded? h, ?_⟩
  obtain ⟨rooted, names⟩ := f
  cases rooted with
  | false => cases h
  | true => exact Path.isCanonical_iff.2 ⟨names, hf, rfl⟩

end Uri

/-! ## Reported paths -/

theorem Text.trim_eq_self {cs : List Char} (hfirst : ∀ c ∈ cs.head?, isBlank c = false)
    (hlast : ∀ c ∈ cs.getLast?, isBlank c = false) : trim cs = cs := by
  have hdrop {cs : List Char} (h : ∀ c ∈ cs.head?, isBlank c = false) :
      cs.dropWhile isBlank = cs := by
    cases cs with
    | nil => rfl
    | cons c cs => exact List.dropWhile_cons_of_neg (by simp [h c rfl])
  rw [trim, trimStart, hdrop hfirst, trimEnd, hdrop (by simpa using hlast), List.reverse_reverse]

namespace Resolver

variable {fs : FileSystem} {r : Resolver} {path : List Char} {u : Uri}

/-- Each URI that a resolver gives names a file. -/
theorem namesFile_of_uri? (h : r.uri? fs path = some u) : u.NamesFile := by
  rw [uri?] at h
  split at h
  case isTrue => cases h
  case isFalse => exact Uri.namesFile_of_ofFolded? (fs.proper_locate _) h

/-- A canonical path is taken as it is. -/
theorem uri?_of_isCanonical (hpath : Path.IsCanonical path)
    (hlast : ∀ c ∈ path.getLast?, Text.isBlank c = false) :
    ∃ f : Folded, f.text = path ∧ f.rooted ∧ ∀ fs r, uri? fs r path = Uri.ofFolded? f := by
  obtain ⟨names, hproper, rfl⟩ := Path.isCanonical_iff.1 hpath
  refine ⟨⟨true, names⟩, rfl, rfl, fun fs r => ?_⟩
  have hslash : Text.isBlank '/' = false := by decide
  have htrim : Text.trim (Folded.text ⟨true, names⟩) = Folded.text ⟨true, names⟩ :=
    Text.trim_eq_self (by simp [Folded.text, hslash]) hlast
  have habs : Path.isAbsolute (Folded.text ⟨true, names⟩) := by simp [Path.isAbsolute, Folded.text]
  have hne : Folded.text ⟨true, names⟩ ≠ [] := by simp [Folded.text]
  rw [uri?, resolve, htrim]
  simp only [habs, or_true, if_true, if_neg hne, FileSystem.locate, Folded.fold_text hproper]

/-- Paths and the URIs of their files correspond, for all resolvers, unless the path begins like a
drive. -/
theorem exists_uri?_localPath (hpath : Path.IsCanonical path)
    (hlast : ∀ c ∈ path.getLast?, Text.isBlank c = false) (hdrive : Uri.hasDrive path = false) :
    ∃ u : Uri, (∀ fs r, uri? fs r path = some u) ∧ Uri.localPath u.chars = path := by
  obtain ⟨f, rfl, hrooted, huri⟩ := uri?_of_isCanonical hpath hlast
  obtain ⟨u, hu⟩ : ∃ u, Uri.ofFolded? f = some u := by simp [Uri.ofFolded?, hrooted]
  refine ⟨u, fun fs r => (huri fs r).trans hu, ?_⟩
  rw [Uri.localPath_of_ofFolded? hu, hdrive]
  rfl

end Resolver

end EditorBridge
