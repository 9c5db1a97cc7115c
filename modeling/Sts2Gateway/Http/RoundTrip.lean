/-
A request that is written is read back (`http.rs`).

* `joinHeader`: the lines of a header, and what the readers of texts make of them:
  `findHeaderEnd_joinHeader`, `splitLines_joinHeader`, `asciiWords_word`;
* `headerLine`, `readHeader_line`, `readHeaders_eq`: the lines of a map of headers;
* `Sendable`: a request that can be written;
* `written_request_read`: **it is read back, however its bytes come in**.
-/
import Mathlib.Tactic
import Sts2Gateway.Http.Messages

namespace Sts2Gateway.Http

open Procedure Std Utf8

/-! ### The lines of a header -/

/-- The lines, with line ends between them. -/
def joinHeader (line : List Char) : List (List Char) → List Char
  | [] => line
  | next :: lines => line ++ '\r' :: '\n' :: joinHeader next lines

/-- A line that is not empty, and has no line end. -/
structure IsLine (line : List Char) : Prop where
  nonempty : line ≠ []
  plain : '\r' ∉ line

lemma notMem_bytesOf {text : List Char} (h : '\r' ∉ text) : (13 : UInt8) ∉ bytesOf text := by
  intro hmem
  obtain ⟨c, hc, heq⟩ := mem_of_mem_bytesOf hmem (by decide)
  have hchar : c = '\r' := Char.toNat_inj.mp heq
  exact h (hchar ▸ hc)

/-- The end of the header is not in a line. -/
lemma findHeaderEnd_skip {bytes later : List UInt8} (h : (13 : UInt8) ∉ bytes) :
    findHeaderEnd (bytes ++ later) = (findHeaderEnd later).map (· + bytes.length) := by
  induction bytes with
  | nil => simp
  | cons byte bytes ih =>
    obtain ⟨hbyte, hrest⟩ := not_or.mp (mt List.mem_cons.mpr h)
    have hnot : ¬ [13, 10, 13, 10].isPrefixOf (byte :: (bytes ++ later)) := by
      simp [List.isPrefixOf, hbyte]
    rw [List.cons_append, findHeaderEnd, if_neg hnot, ih hrest, Option.map_map]
    rfl

/-- A line end before another line is not the end of the header. -/
lemma findHeaderEnd_lineEnd {line : List Char} (h : IsLine line) (later : List UInt8) :
    findHeaderEnd (13 :: 10 :: (bytesOf line ++ later)) =
      (findHeaderEnd (bytesOf line ++ later)).map (· + 2) := by
  have hplain := notMem_bytesOf h.plain
  obtain ⟨c, text, rfl⟩ := List.exists_cons_of_ne_nil h.nonempty
  obtain ⟨byte, bytes, hbytes⟩ : ∃ byte bytes, bytesOf (c :: text) = byte :: bytes := by
    refine List.exists_cons_of_ne_nil ?_
    rw [bytesOf_cons]
    intro hnil
    have := congrArg List.length (List.append_eq_nil_iff.mp hnil).1
    rw [String.length_utf8EncodeChar, List.length_nil] at this
    have := c.utf8Size_pos
    omega
  rw [hbytes] at hplain ⊢
  have hbyte : (13 : UInt8) ≠ byte := fun heq => hplain (heq ▸ List.mem_cons_self)
  have hfirst : ¬ [13, 10, 13, 10].isPrefixOf (13 :: 10 :: (byte :: bytes ++ later)) := by
    simp [List.isPrefixOf, hbyte]
  have hsecond : ¬ [13, 10, 13, 10].isPrefixOf (10 :: (byte :: bytes ++ later)) := by
    simp [List.isPrefixOf]
  rw [findHeaderEnd, if_neg hfirst, findHeaderEnd, if_neg hsecond, Option.map_map]
  rfl

/-- The header ends after its last line. -/
lemma findHeaderEnd_joinHeader {line : List Char} {lines : List (List Char)} (hline : IsLine line)
    (hlines : ∀ line ∈ lines, IsLine line) (body : List UInt8) :
    findHeaderEnd (bytesOf (joinHeader line lines) ++ 13 :: 10 :: 13 :: 10 :: body) =
      some (bytesOf (joinHeader line lines)).length := by
  induction lines generalizing line with
  | nil =>
    rw [joinHeader, findHeaderEnd_skip (notMem_bytesOf hline.plain)]
    have hhere : findHeaderEnd (13 :: 10 :: 13 :: 10 :: body) = some 0 := by
      rw [findHeaderEnd, if_pos]
      simp [List.isPrefixOf]
    rw [hhere, Option.map_some, Nat.zero_add]
  | cons next lines ih =>
    obtain ⟨hnext, hrest⟩ := List.forall_mem_cons.mp hlines
    have hsplit : bytesOf (joinHeader line (next :: lines)) =
        bytesOf line ++ 13 :: 10 :: bytesOf (joinHeader next lines) := by
      rw [joinHeader, bytesOf_append, bytesOf_cons, bytesOf_cons]
      rfl
    obtain ⟨text, htext⟩ : ∃ text, joinHeader next lines = next ++ text := by
      cases lines with
      | nil => exact ⟨[], (List.append_nil _).symm⟩
      | cons other lines => exact ⟨_, rfl⟩
    have hinner := ih hnext hrest
    rw [htext, bytesOf_append, List.append_assoc] at hinner
    rw [hsplit, List.append_assoc, findHeaderEnd_skip (notMem_bytesOf hline.plain),
      List.cons_append, List.cons_append, htext, bytesOf_append, List.append_assoc,
      findHeaderEnd_lineEnd hnext, hinner]
    simp only [Option.map_some, List.length_append, List.length_cons]
    congr 1
    omega

lemma splitLines_append {line : List Char} (h : '\r' ∉ line) (text : List Char) :
    splitLines (line ++ '\r' :: '\n' :: text) = line :: splitLines text := by
  induction line with
  | nil => rfl
  | cons c line ih =>
    obtain ⟨hc, hline⟩ := not_or.mp (mt List.mem_cons.mpr h)
    rw [List.cons_append, splitLines, ih hline]
    intro rest heq
    exact absurd heq.symm hc

lemma splitLines_line {line : List Char} (h : '\r' ∉ line) : splitLines line = [line] := by
  induction line with
  | nil => rfl
  | cons c line ih =>
    obtain ⟨hc, hline⟩ := not_or.mp (mt List.mem_cons.mpr h)
    rw [splitLines, ih hline]
    intro rest heq
    exact absurd heq.symm hc

lemma splitLines_joinHeader {line : List Char} {lines : List (List Char)} (hline : IsLine line)
    (hlines : ∀ line ∈ lines, IsLine line) :
    splitLines (joinHeader line lines) = line :: lines := by
  induction lines generalizing line with
  | nil => exact splitLines_line hline.plain
  | cons next lines ih =>
    obtain ⟨hnext, hrest⟩ := List.forall_mem_cons.mp hlines
    rw [joinHeader, splitLines_append hline.plain, ih hnext hrest]

/-! ### Words -/

/-- A word is not empty, and has no white space. -/
structure IsWord (word : List Char) : Prop where
  nonempty : word ≠ []
  solid : ∀ c ∈ word, isAsciiWhitespace c = false

lemma asciiWords_word {word : List Char} (h : IsWord word) : asciiWords word = [word] := by
  obtain ⟨hnonempty, hsolid⟩ := h
  induction word with
  | nil => exact absurd rfl hnonempty
  | cons c word ih =>
    obtain ⟨hc, hword⟩ := List.forall_mem_cons.mp hsolid
    cases word with
    | nil => simp [asciiWords, hc]
    | cons next word =>
      have hnext := hword next List.mem_cons_self
      have hrest := ih (List.cons_ne_nil _ _) hword
      rw [asciiWords, if_neg (by simp [hc]), if_neg (by simp [hnext]), hrest]

lemma asciiWords_append {word : List Char} (h : IsWord word) (text : List Char) :
    asciiWords (word ++ ' ' :: text) = word :: asciiWords text := by
  obtain ⟨hnonempty, hsolid⟩ := h
  have hspace : asciiWords (' ' :: text) = asciiWords text := by
    cases text with
    | nil => rfl
    | cons c text => rw [asciiWords, if_pos (by decide)]
  induction word with
  | nil => exact absurd rfl hnonempty
  | cons c word ih =>
    obtain ⟨hc, hword⟩ := List.forall_mem_cons.mp hsolid
    cases word with
    | nil =>
      rw [List.singleton_append, asciiWords, if_neg (by simp [hc]), if_pos (by decide),
        hspace]
    | cons next word =>
      have hnext := hword next List.mem_cons_self
      have hrest := ih (List.cons_ne_nil _ _) hword
      rw [List.cons_append, List.cons_append, asciiWords, if_neg (by simp [hc]),
        if_neg (by simp [hnext]), ← List.cons_append, hrest]

/-! ### Headers -/

def headerLine (header : String × String) : List Char :=
  header.1.toList ++ ':' :: ' ' :: header.2.toList

/-- A name in lower case, and a value that is printable and trimmed. -/
structure IsHeader (header : String × String) : Prop where
  named : header.1.toList ≠ []
  token : ∀ c ∈ header.1.toList, isTokenChar c ∧ ¬ ('A' ≤ c ∧ c ≤ 'Z')
  printable : ∀ c ∈ header.2.toList, 32 ≤ c.toNat ∧ c.toNat ≤ 126
  trimmed : trim header.2.toList = header.2.toList

lemma splitOnce_append {mark : Char} {name : List Char} (h : mark ∉ name) (value : List Char) :
    splitOnce mark (name ++ mark :: value) = some (name, value) := by
  induction name with
  | nil => rw [List.nil_append, splitOnce, if_pos rfl]
  | cons c name ih =>
    obtain ⟨hc, hname⟩ := not_or.mp (mt List.mem_cons.mpr h)
    rw [List.cons_append, splitOnce, if_neg (Ne.symm hc), ih hname, Option.map_some]

lemma toAsciiLowercase_eq {name : List Char} (h : ∀ c ∈ name, ¬ ('A' ≤ c ∧ c ≤ 'Z')) :
    toAsciiLowercase name = name := by
  rw [toAsciiLowercase, List.map_congr_left fun c hc => if_neg (h c hc), List.map_id']

lemma isLine_headerLine {header : String × String} (h : IsHeader header) :
    IsLine (headerLine header) := by
  refine ⟨fun hnil => h.named (List.append_eq_nil_iff.mp hnil).1, fun hmem => ?_⟩
  rcases List.mem_append.mp hmem with hname | hrest
  · have := (h.token _ hname).1
    revert this
    decide
  · simp only [List.mem_cons, Char.reduceEq, false_or] at hrest
    have := h.printable _ hrest
    revert this
    decide

/-- A line is read as the header that it is written for. -/
lemma readHeader_line {header : String × String} (h : IsHeader header)
    (hsize : header.2.utf8ByteSize ≤ maxHeaderBytes) {headers : Headers}
    (hnew : headers[header.1]? = none) :
    readHeader headers (headerLine header) = .ok (headers.insert header.1 header.2) := by
  have hcolon : ':' ∉ header.1.toList := by
    intro hmem
    have := (h.token _ hmem).1
    revert this
    decide
  have hline : (headerLine header).isEmpty = false :=
    List.isEmpty_eq_false_iff.mpr (isLine_headerLine h).nonempty
  have hvalid : validHeader header.1.toList (' ' :: header.2.toList) = true := by
    simp only [validHeader, Bool.and_eq_true, List.all_eq_true, Bool.not_eq_true',
      List.isEmpty_eq_false_iff]
    refine ⟨⟨h.named, fun c hc => (h.token c hc).1⟩, List.forall_mem_cons.mpr ⟨by decide, ?_⟩⟩
    intro c hc
    have hprintable := h.printable c hc
    simp [hprintable]
  have htrim : trim (' ' :: header.2.toList) = header.2.toList := h.trimmed
  have hname : header.1.isEmpty = false := by
    rw [Bool.eq_false_iff]
    intro hempty
    exact h.named (String.toList_eq_nil_iff.mpr (String.isEmpty_iff.mp hempty))
  have habsent : header.1 ∉ headers := by
    rw [OrderedMap.mem_iff_getElem?_ne_none]
    exact not_not.mpr hnew
  have hlower := toAsciiLowercase_eq fun c hc => (h.token c hc).2
  rw [readHeader, hline, if_neg Bool.false_ne_true, headerLine, splitOnce_append hcolon,
    except_bind_eq_ok]
  refine ⟨(header.1.toList, ' ' :: header.2.toList), rfl, ?_⟩
  dsimp only
  rw [except_bind_eq_ok]
  refine ⟨(), refuse_eq_ok.mpr (not_not.mpr hvalid), ?_⟩
  rw [htrim, hlower, String.ofList_toList, String.ofList_toList, except_bind_eq_ok]
  refine ⟨(), refuse_eq_ok.mpr ?_, rfl⟩
  rintro (hempty | hlong | hmem)
  · rw [hname] at hempty
    cases hempty
  · omega
  · exact habsent hmem

/-- The lines of a map are read as that map. -/
lemma readHeaders_eq (headers : Headers)
    (h : ∀ header ∈ headers.toList, IsHeader header ∧ header.2.utf8ByteSize ≤ maxHeaderBytes) :
    (headers.toList.map headerLine).foldlM readHeader ∅ = .ok headers := by
  set entries := headers.toList.map fun header => (header.1, header) with hentries
  have hdistinct : entries.Pairwise fun p q => p.1 ≠ q.1 := by
    rw [hentries, List.pairwise_map]
    refine ExtTreeMap.distinct_keys_toList.imp fun hne heq => hne ?_
    rw [heq]
    exact ReflCmp.compare_self
  have hstep : ∀ p ∈ entries, ∀ acc : Headers, acc[p.1]? = none →
      readHeader acc (headerLine p.2) = .ok (acc.insert p.1 p.2.2) := by
    intro p hp acc hnew
    obtain ⟨header, hheader, rfl⟩ := List.mem_map.mp hp
    exact readHeader_line (h header hheader).1 (h header hheader).2 hnew
  obtain ⟨read, hread, hin, hout⟩ := OrderedMap.foldlM_insert (f := fun _ header => header.2)
    entries (∅ : Headers) hdistinct (by simp) hstep
  have hlines : headers.toList.map headerLine = entries.map fun p => headerLine p.2 := by
    rw [hentries, List.map_map]
    rfl
  rw [hlines, hread]
  refine congrArg Except.ok (ExtTreeMap.ext_getElem? fun name => ?_)
  cases hvalue : headers[name]? with
  | none =>
    rw [hout name]
    · simp
    · rintro p hp rfl
      obtain ⟨header, hheader, rfl⟩ := List.mem_map.mp hp
      rw [ExtTreeMap.mem_toList_iff_getElem?_eq_some.mp hheader] at hvalue
      cases hvalue
  | some value =>
    have hheader : (name, value) ∈ headers.toList :=
      ExtTreeMap.mem_toList_iff_getElem?_eq_some.mpr hvalue
    exact hin (name, (name, value)) (List.mem_map_of_mem hheader)

/-! ### The request -/

/-- A request that can be written: no white space in the method and the path, headers that are
neither written by the writer itself nor about the transfer, and the length of the body. -/
structure Sendable (method path : String) (headers : Headers) (body : List UInt8) : Prop where
  method_solid : ∀ c ∈ method.toList, isAsciiWhitespace c = false
  path_solid : ∀ c ∈ path.toList, isAsciiWhitespace c = false
  headers_valid : ∀ header ∈ headers.toList, IsHeader header
  no_connection : headers["connection"]? = none
  no_transfer_encoding : headers["transfer-encoding"]? = none
  length : ∃ value, headers["content-length"]? = some value ∧
    parseLength value.toList = some body.length
  header_fits : (writeRequest method path headers []).length ≤ maxHeaderBytes
  body_fits : body.length ≤ maxBodyBytes

def firstLine (method path : String) : List Char :=
  method.toList ++ ' ' :: (path.toList ++ ' ' :: "HTTP/1.1".toList)

def closeLine : List Char := "Connection: close".toList

lemma closeLine_eq : closeLine =
    ['C', 'o', 'n', 'n', 'e', 'c', 't', 'i', 'o', 'n', ':', ' ', 'c', 'l', 'o', 's', 'e'] :=
  String.toList_ofList

lemma isLine_closeLine : IsLine closeLine := by
  rw [closeLine_eq]
  exact ⟨List.cons_ne_nil _ _, by decide⟩

/-- The line of the writer is read as its header. -/
lemma readHeader_closeLine {headers : Headers} (hnew : headers["connection"]? = none) :
    readHeader headers closeLine = .ok (headers.insert "connection" "close") := by
  have hsplit : splitOnce ':' closeLine = some ("Connection".toList, " close".toList) := by
    simp only [closeLine_eq, String.reduceToList]
    rfl
  have hline : closeLine.isEmpty = false := by
    rw [closeLine_eq]
    rfl
  have hvalid : validHeader "Connection".toList " close".toList = true := by
    simp only [String.reduceToList]
    rfl
  have hname : String.ofList (toAsciiLowercase "Connection".toList) = "connection" := by
    simp only [String.reduceToList]
    rfl
  have hvalue : String.ofList (trim " close".toList) = "close" := by
    simp only [String.reduceToList]
    rfl
  have habsent : "connection" ∉ headers := by
    rw [OrderedMap.mem_iff_getElem?_ne_none]
    exact not_not.mpr hnew
  have hshort : ¬ "close".utf8ByteSize > maxHeaderBytes := by decide
  have hnamed : ¬ "connection".isEmpty = true := by decide
  rw [readHeader, hline, if_neg Bool.false_ne_true, hsplit, except_bind_eq_ok]
  refine ⟨_, rfl, ?_⟩
  dsimp only
  rw [except_bind_eq_ok]
  refine ⟨(), refuse_eq_ok.mpr (not_not.mpr hvalid), ?_⟩
  rw [hname, hvalue, except_bind_eq_ok]
  refine ⟨(), refuse_eq_ok.mpr ?_, rfl⟩
  rintro (hempty | hlong | hmem)
  · exact hnamed hempty
  · exact hshort hlong
  · exact habsent hmem

/-- A line, the header lines and the closing line, each after the end of the one before. -/
lemma append_headerLines (line : List Char) (rows : List (String × String)) :
    line ++ "\r\n".toList ++ rows.flatMap (fun (name, value) =>
      name.toList ++ ": ".toList ++ value.toList ++ "\r\n".toList) ++ closeLine =
    joinHeader line (rows.map headerLine ++ [closeLine]) := by
  induction rows generalizing line with
  | nil =>
    simp [joinHeader]
  | cons row rows ih =>
    rw [List.map_cons, List.cons_append, joinHeader, ← ih]
    simp [headerLine]

/-- A request is its lines, an empty one, and its body. -/
lemma writeRequest_eq (method path : String) (headers : Headers) (body : List UInt8) :
    writeRequest method path headers body =
      bytesOf (joinHeader (firstLine method path) (headers.toList.map headerLine ++ [closeLine])) ++
        13 :: 10 :: 13 :: 10 :: body := by
  have hversion : " HTTP/1.1\r\n".toList = ' ' :: ("HTTP/1.1".toList ++ "\r\n".toList) := by
    simp only [String.reduceToList, List.cons_append, List.nil_append]
  have hclose : "Connection: close\r\n\r\n".toList = closeLine ++ "\r\n\r\n".toList := by
    simp only [closeLine_eq, String.reduceToList, List.cons_append, List.nil_append]
  have hend : bytesOf "\r\n\r\n".toList = [13, 10, 13, 10] := by
    simp only [String.reduceToList]
    rfl
  rw [← append_headerLines, writeRequest, hversion, hclose, firstLine]
  generalize headers.toList.flatMap _ = rows
  have hsplit : ∀ lineEnd last : List Char, method.toList ++ ' ' :: (path.toList ++
      ' ' :: ("HTTP/1.1".toList ++ lineEnd) ++ rows ++ (closeLine ++ last)) =
      (method.toList ++ ' ' :: (path.toList ++ ' ' :: "HTTP/1.1".toList) ++ lineEnd ++ rows ++
        closeLine) ++ last := by
    intro lineEnd last
    simp only [List.append_assoc, List.cons_append]
  rw [hsplit, bytesOf_append, hend, List.append_assoc]
  rfl

/-- The first line is read as the method and the path. -/
lemma requestLine_firstLine {method path : String} (hmethod : IsWord method.toList)
    (hpath : IsWord path.toList) : requestLine (firstLine method path) = .ok (method, path) := by
  have hversion : asciiWords "HTTP/1.1".toList = ["HTTP/1.1".toList] := by
    simp only [String.reduceToList]
    rfl
  rw [requestLine, firstLine, asciiWords_append hmethod, asciiWords_append hpath, hversion]
  dsimp only
  rw [if_pos rfl, String.ofList_toList, String.ofList_toList]

lemma isLine_firstLine {method path : String} (hmethod : IsWord method.toList)
    (hpath : IsWord path.toList) : IsLine (firstLine method path) := by
  have hword : ∀ {word : List Char}, IsWord word → '\r' ∉ word := by
    intro word h hmem
    have := h.solid _ hmem
    revert this
    decide
  have hversion : '\r' ∉ "HTTP/1.1".toList := by
    simp only [String.reduceToList]
    decide
  refine ⟨fun hnil => hmethod.nonempty (List.append_eq_nil_iff.mp hnil).1, fun hmem => ?_⟩
  simp only [firstLine, List.mem_append, List.mem_cons, Char.reduceEq, false_or] at hmem
  rcases hmem with hmem | hmem | hmem
  · exact hword hmethod hmem
  · exact hword hpath hmem
  · exact hversion hmem

/-- A value is no longer than the header that it is in. -/
lemma size_le_of_header {method path : String} {headers : Headers} {header : String × String}
    (hmem : header ∈ headers.toList) :
    header.2.utf8ByteSize ≤ (writeRequest method path headers []).length := by
  have hsize : header.2.utf8ByteSize = (bytesOf header.2.toList).length := by
    rw [← toUTF8_ofList, String.ofList_toList]
    rfl
  obtain ⟨front, back, hsplit⟩ := List.append_of_mem hmem
  rw [hsize, writeRequest, hsplit]
  simp only [List.flatMap_append, List.flatMap_cons, bytesOf_append, bytesOf_cons,
    List.length_append]
  omega

/-- **A request that is written is read back**, with the header that the writer adds, however its
bytes come in. -/
theorem written_request_read {method path : String} {headers : Headers} {body : List UInt8}
    (h : Sendable method path headers body) (hmethod : method ≠ "") (hpath : path ≠ "")
    {source : Source} (hcalm : source.Calm)
    (hrest : source.rest = writeRequest method path headers body) :
    readRequest source =
      .ok { method, path, headers := headers.insert "connection" "close", body } := by
  have hmethodWord : IsWord method.toList :=
    ⟨fun hnil => hmethod (String.toList_eq_nil_iff.mp hnil), h.method_solid⟩
  have hpathWord : IsWord path.toList :=
    ⟨fun hnil => hpath (String.toList_eq_nil_iff.mp hnil), h.path_solid⟩
  have hsizes : ∀ header ∈ headers.toList, header.2.utf8ByteSize ≤ maxHeaderBytes :=
    fun header hmem => (size_le_of_header hmem).trans h.header_fits
  set lines := headers.toList.map headerLine ++ [closeLine] with hlines
  set text := joinHeader (firstLine method path) lines with htext
  have hfirst := isLine_firstLine hmethodWord hpathWord
  have hall : ∀ line ∈ lines, IsLine line := by
    intro line hline
    rcases List.mem_append.mp hline with hmem | hmem
    · obtain ⟨header, hheader, rfl⟩ := List.mem_map.mp hmem
      exact isLine_headerLine (h.headers_valid header hheader)
    · rw [List.mem_singleton.mp hmem]
      exact isLine_closeLine
  have hwhole : source.rest = bytesOf text ++ 13 :: 10 :: 13 :: 10 :: body :=
    hrest.trans (writeRequest_eq method path headers body)
  have hend : findHeaderEnd source.rest = some (bytesOf text).length := by
    rw [hwhole]
    exact findHeaderEnd_joinHeader hfirst hall body
  have hfits : (bytesOf text).length + 4 ≤ maxHeaderBytes := by
    have := h.header_fits
    rw [writeRequest_eq, List.length_append] at this
    exact this
  -- the lines are read as the headers
  have hclose := readHeader_closeLine h.no_connection
  have hheaders : lines.foldlM readHeader ∅ = .ok (headers.insert "connection" "close") := by
    rw [hlines, List.foldlM_append, readHeaders_eq headers
      fun header hmem => ⟨h.headers_valid header hmem, hsizes header hmem⟩]
    change (readHeader headers closeLine >>= fun next => [].foldlM readHeader next) = _
    rw [hclose]
    rfl
  have hlookup : ∀ name, name ≠ "connection" →
      (headers.insert "connection" "close")[name]? = headers[name]? := by
    intro name hne
    rw [OrderedMap.getElem?_insert_if, if_neg (Ne.symm hne)]
  have hlength : contentLength (headers.insert "connection" "close") = .ok body.length := by
    obtain ⟨value, hvalue, hparse⟩ := h.length
    rw [contentLength, hlookup "content-length" (by decide), hvalue]
    dsimp only
    rw [hparse]
    rfl
  have hhead : requestHead (bytesOf text) = .ok
      ({ method, path, headers := headers.insert "connection" "close" }, body.length) := by
    have htransfer : "transfer-encoding" ∉ headers.insert "connection" "close" := by
      rw [OrderedMap.mem_iff_getElem?_ne_none, hlookup _ (by decide)]
      exact not_not.mpr h.no_transfer_encoding
    rw [requestHead, decode_bytesOf, except_bind_eq_ok]
    refine ⟨text, rfl, ?_⟩
    rw [htext, splitLines_joinHeader hfirst hall]
    dsimp only
    rw [requestLine_firstLine hmethodWord hpathWord, except_bind_eq_ok]
    refine ⟨_, rfl, ?_⟩
    dsimp only
    rw [hheaders, except_bind_eq_ok]
    refine ⟨_, rfl, ?_⟩
    rw [except_bind_eq_ok]
    refine ⟨(), refuse_eq_ok.mpr htransfer, ?_⟩
    rw [hlength, except_bind_eq_ok]
    refine ⟨_, rfl, ?_⟩
    rw [except_bind_eq_ok]
    have hbody := h.body_fits
    exact ⟨(), refuse_eq_ok.mpr (by omega), rfl⟩
  -- nothing follows the body, so nothing is refused
  obtain ⟨buffered, hread, hbuffered⟩ := readMessage_eq requestFraming plain_read
    hcalm fun _ => Nat.min_le_left bufferBytes _
  have hbounded := hbuffered.bounded
  have htotal : source.rest.length = (bytesOf text).length + 4 + body.length := by
    rw [hwhole, List.length_append]
    simp only [List.length_cons]
    omega
  have hdrop : source.rest.drop ((bytesOf text).length + 4) = body := by
    rw [hwhole, List.drop_append]
    simp
  have htake : source.rest.take (bytesOf text).length = bytesOf text := by
    rw [hwhole, List.take_left']
    rfl
  rw [readRequest, hread, settle, hend]
  dsimp only
  rw [if_neg (by omega), htake, hdrop]
  have hframing : requestFraming.head (bytesOf text) = .ok
      ({ method, path, headers := headers.insert "connection" "close" }, body.length) := hhead
  rw [hframing, except_bind_eq_ok]
  refine ⟨({ method, path, headers := headers.insert "connection" "close" }, body), ?_, rfl⟩
  rw [except_bind_eq_ok]
  refine ⟨_, rfl, ?_⟩
  dsimp only
  rw [except_bind_eq_ok]
  refine ⟨(), refuse_eq_ok.mpr (by omega), ?_⟩
  rw [except_bind_eq_ok]
  refine ⟨(), refuse_eq_ok.mpr (lt_irrefl _), ?_⟩
  rw [List.take_length]
  rfl

namespace Sample

/-- The headers of a request with a body of so many bytes. -/
def headers (length : String) : Headers := (∅ : Headers).insert "content-length" length

/-- A buffer at a time. -/
def source (whole : List UInt8) : Source where
  rest := whole
  ready _ := bufferBytes
  waits _ := []

lemma calm_source (whole : List UInt8) : (source whole).Calm :=
  fun _ _ hwait => absurd hwait (by simp [source])

lemma isHeader_of_headers {length : String} (hlist : (headers length).toList =
    [("content-length", length)]) (hdigits : length.toList.all Char.isDigit = true)
    (htrim : trim length.toList = length.toList) :
    ∀ header ∈ (headers length).toList, IsHeader header := by
  intro header hmem
  rw [hlist, List.mem_singleton] at hmem
  subst hmem
  have hname : "content-length".toList ≠ [] := by
    simp only [String.reduceToList, ne_eq, reduceCtorEq, not_false_eq_true]
  have htoken : "content-length".toList.all (fun c => isTokenChar c && !decide ('A' ≤ c ∧ c ≤ 'Z')) =
      true := by
    simp only [String.reduceToList]
    rfl
  refine ⟨hname, fun c hc => ?_, fun c hc => ?_, htrim⟩
  · have := List.all_eq_true.mp htoken c hc
    rwa [Bool.and_eq_true, Bool.not_eq_true', decide_eq_false_iff_not] at this
  · have := List.all_eq_true.mp hdigits c hc
    simp only [Char.isDigit, Bool.and_eq_true, decide_eq_true_eq, ge_iff_le,
      UInt32.le_iff_toNat_le] at this
    have hzero : '0'.val.toNat = 48 := rfl
    have hnine : '9'.val.toNat = 57 := rfl
    have hvalue : c.toNat = c.val.toNat := rfl
    omega

lemma solid_of_all {word : List Char} (h : word.all (fun c => !isAsciiWhitespace c) = true) :
    ∀ c ∈ word, isAsciiWhitespace c = false := by
  intro c hc
  have := List.all_eq_true.mp h c hc
  rwa [Bool.not_eq_true'] at this

lemma sendable_headers {method path length : String} {body : List UInt8}
    (hmethod : method.toList.all (fun c => !isAsciiWhitespace c) = true)
    (hpath : path.toList.all (fun c => !isAsciiWhitespace c) = true)
    (hdigits : length.toList.all Char.isDigit = true)
    (htrim : trim length.toList = length.toList)
    (hparse : parseLength length.toList = some body.length)
    (hfits : (writeRequest method path (headers length) []).length ≤ maxHeaderBytes)
    (hbody : body.length ≤ maxBodyBytes) : Sendable method path (headers length) body := by
  have hlist : (headers length).toList = [("content-length", length)] := rfl
  refine ⟨solid_of_all hmethod, solid_of_all hpath, isHeader_of_headers hlist hdigits htrim, ?_, ?_,
    ⟨length, ?_, hparse⟩, hfits, hbody⟩
  · rw [headers, OrderedMap.getElem?_insert_if, if_neg (by decide)]
    rfl
  · rw [headers, OrderedMap.getElem?_insert_if, if_neg (by decide)]
    rfl
  · rw [headers, OrderedMap.getElem?_insert_if, if_pos rfl]

end Sample

/-- A request with a body of two bytes is read back. -/
theorem greeting_read : readRequest (Sample.source (writeRequest "POST" "/v1" (Sample.headers "2")
      [104, 105])) = .ok {
    method := "POST"
    path := "/v1"
    headers := (Sample.headers "2").insert "connection" "close"
    body := [104, 105] } := by
  have hsendable : Sendable "POST" "/v1" (Sample.headers "2") [104, 105] :=
    Sample.sendable_headers (by decide +kernel) (by decide +kernel) (by decide +kernel)
      (by decide +kernel) (by decide +kernel) (by decide +kernel) (by decide)
  exact written_request_read hsendable (by decide) (by decide) (Sample.calm_source _) rfl

/-- A request without a method is refused. -/
theorem request_without_method_refused :
    ¬ ∀ method path headers body, Sendable method path headers body →
      ∀ source : Source, source.Calm → source.rest = writeRequest method path headers body →
      readRequest source =
        .ok { method, path, headers := headers.insert "connection" "close", body } := by
  intro h
  have hsendable : Sendable "" "/" (Sample.headers "0") [] :=
    Sample.sendable_headers (by decide +kernel) (by decide +kernel) (by decide +kernel)
      (by decide +kernel) (by decide +kernel) (by decide +kernel) (by decide)
  have hread := h _ _ _ _ hsendable
    (Sample.source (writeRequest "" "/" (Sample.headers "0") [])) (Sample.calm_source _) rfl
  have hrefused : (readRequest (Sample.source (writeRequest "" "/" (Sample.headers "0") []))).isOk =
      false := by
    decide +kernel
  rw [hread] at hrefused
  cases hrefused

end Sts2Gateway.Http
