import AgentRuntime.Data.Python
import AgentRuntime.Graph.Models

/-!
# Canonical addresses

Port of `canonicalize_uri` in `services/evidence.py`, with what it calls of Python's `urllib.parse`. The
function catches what splitting an address raises. It does not catch what reading the port of the split
address raises, nor what encoding its query raises.
-/

namespace AgentRuntime.Graph
open Python

/-- What Python's library reads from the Unicode tables, and the finer checks of an authority. -/
structure Library where
  /-- `text.lower()` -/
  lower : PyStr → PyStr
  /-- `unquote(text)` -/
  unquote : PyStr → PyStr
  /-- the checks of the host in brackets, and of characters that normalize to separators -/
  netlocAccepted : PyStr → Bool

namespace Uri

def colon : CodePoint := .ofNat 0x3a
def slash : CodePoint := .ofNat 0x2f
def hash : CodePoint := .ofNat 0x23
def question : CodePoint := .ofNat 0x3f
def openBracket : CodePoint := .ofNat 0x5b
def closeBracket : CodePoint := .ofNat 0x5d
def commercialAt : CodePoint := .ofNat 0x40
def ampersand : CodePoint := .ofNat 0x26
def equalsSign : CodePoint := .ofNat 0x3d
def plus : CodePoint := .ofNat 0x2b
def space : CodePoint := .ofNat 0x20
def percentSign : CodePoint := .ofNat 0x25

/-- source `urllib.parse.SplitResult`, without the fragment -/
structure SplitResult where
  scheme : PyStr
  netloc : PyStr
  path : PyStr
  query : PyStr

/-- A character of `scheme_chars`. -/
def schemeChar (c : CodePoint) : Bool :=
  PyStr.isAsciiLetter c || PyStr.isAsciiDigit c || (PyStr.ofString "+-.").contains c

/-- The lower-case form of an ASCII letter. -/
def lowerAscii (c : CodePoint) : CodePoint :=
  if h : 0x41 ≤ c.val ∧ c.val ≤ 0x5a then ⟨c.val + 0x20, by omega⟩ else c

/-- The scheme in front of the first colon, and what is behind it. -/
def splitScheme (url : PyStr) : PyStr × PyStr :=
  match url.partition colon with
  | (c :: scheme, some rest) =>
    if PyStr.isAsciiLetter c && scheme.all schemeChar then ((c :: scheme).map lowerAscii, rest) else ([], url)
  | _ => ([], url)

/-- The authority, up to the path, the query or the fragment. -/
def splitNetloc (url : PyStr) : PyStr × PyStr :=
  if url.take 2 = [slash, slash] then
    (url.drop 2).span fun c => c ≠ slash && c ≠ question && c ≠ hash
  else ([], url)

/-- source `urllib.parse.urlsplit`; nothing stands for its `ValueError` -/
def urlsplit (library : Library) (url : PyStr) : Option SplitResult :=
  let url := (url.dropWhile fun c => c.val ≤ 0x20).filter fun c => c.val ≠ 9 && c.val ≠ 10 && c.val ≠ 13
  let (scheme, url) := splitScheme url
  let (netloc, url) := splitNetloc url
  if netloc.contains openBracket ≠ netloc.contains closeBracket then none
  else if !library.netlocAccepted netloc then none
  else
    let (path, query) := (url.partition hash).1.partition question
    some ⟨scheme, netloc, path, query.getD []⟩

/-- `SplitResult._hostinfo`: the host, and the text of the port if it is not empty -/
def hostinfo (parsed : SplitResult) : PyStr × PyStr :=
  let hostinfo := parsed.netloc.behindLast commercialAt
  match hostinfo.partition openBracket with
  | (_, some bracketed) =>
    let (hostname, rest) := bracketed.partition closeBracket
    (hostname, ((rest.getD []).partition colon).2.getD [])
  | (_, none) =>
    let (hostname, port) := hostinfo.partition colon
    (hostname, port.getD [])

/-- `SplitResult.hostname`: in lower case, but for the zone of an address -/
def hostname (library : Library) (parsed : SplitResult) : PyStr :=
  match (hostinfo parsed).1.partition percentSign with
  | (host, some zone) => library.lower host ++ [percentSign] ++ zone
  | (host, none) => library.lower host

/-- The text is a port: ASCII digits that the interpreter converts, up to 65535. -/
def isPort (text : PyStr) : Bool :=
  text.all PyStr.isAsciiDigit && decide (text.length ≤ maxStrDigits) && decide (text.number ≤ 65535)

/-- `SplitResult.port`: nothing without a text, and a `ValueError` for a text that is no port -/
def port (parsed : SplitResult) : Except GraphError (Option Nat) :=
  let text := (hostinfo parsed).2
  if text.isEmpty then .ok none
  else if isPort text then .ok (some text.number)
  else .error (.raised "ValueError")

/-- source `_TRACKING_PARAMETERS` -/
def trackingParameters : List String :=
  ["fbclid", "gclid", "mc_cid", "mc_eid", "ref", "source", "utm_campaign", "utm_content", "utm_medium",
    "utm_source", "utm_term"]

/-- source `urllib.parse.parse_qsl`, with `keep_blank_values=True` -/
def parseQsl (library : Library) (query : PyStr) : List (PyStr × PyStr) :=
  let decoded (text : PyStr) := library.unquote (text.replaceChar plus space)
  ((query.splitOn ampersand).filter fun part => !part.isEmpty).map fun part =>
    let (name, value) := PyStr.partition equalsSign part
    (decoded name, decoded (value.getD []))

/-- The parameters of the query that are kept. -/
def keptParameters (library : Library) (parsed : SplitResult) : List (PyStr × PyStr) :=
  (parseQsl library parsed.query).filter fun (key, _) =>
    !(trackingParameters.map PyStr.ofString).contains (library.lower key)

/-- `%` and the two digits of a byte. -/
def percent (byte : Nat) : PyStr :=
  .ofString (String.ofList ['%', (Nat.digitChar (byte / 16)).toUpper, (Nat.digitChar (byte % 16)).toUpper])

/-- source `urllib.parse.quote_plus` -/
def quotePlus (text : PyStr) : PyStr :=
  text.flatMap fun c =>
    if PyStr.isAsciiLetter c || PyStr.isAsciiDigit c || (PyStr.ofString "_.-~").contains c then [c]
    else if c = space then [plus]
    else c.utf8.flatMap percent

/-- A key or a value of the parameters cannot be encoded. -/
def encodable (parameters : List (PyStr × PyStr)) : Bool :=
  parameters.all fun (key, value) => key.encodable && value.encodable

/-- source `urllib.parse.urlencode` -/
def urlencode (parameters : List (PyStr × PyStr)) : Except GraphError PyStr :=
  if encodable parameters then
    .ok (join "&" (parameters.map fun (key, value) => quotePlus key ++ [equalsSign] ++ quotePlus value))
  else .error (.raised "UnicodeEncodeError")

/-- source `urllib.parse.uses_netloc` -/
def usesNetloc : List String :=
  ["", "ftp", "http", "gopher", "nntp", "telnet", "imap", "wais", "file", "mms", "https", "shttp", "snews",
    "prospero", "rtsp", "rtsps", "rtspu", "rsync", "svn", "svn+ssh", "sftp", "nfs", "git", "git+ssh", "ws",
    "wss", "itms-services"]

/-- source `urllib.parse.urlunsplit`, without a fragment -/
def urlunsplit (scheme netloc path query : PyStr) : PyStr :=
  let slashes := PyStr.ofString "//"
  let rooted := path.head? = some slash
  let url :=
    if !netloc.isEmpty then
      slashes ++ netloc ++ (if path.isEmpty || rooted then path else slash :: path)
    else if path.take 2 = slashes then slashes ++ path
    else if !scheme.isEmpty && (usesNetloc.map PyStr.ofString).contains scheme && (path.isEmpty || rooted) then
      slashes ++ path
    else path
  let url := if scheme.isEmpty then url else scheme ++ [colon] ++ url
  if query.isEmpty then url else url ++ [question] ++ query

/-- Pairs in their order, the keys first. -/
def pairLe (x y : PyStr × PyStr) : Bool := if x.1 = y.1 then PyStr.le x.2 y.2 else PyStr.le x.1 y.1

/-- The port is the one that the scheme implies. -/
def impliedPort (scheme : PyStr) (port : Nat) : Bool :=
  (scheme = .ofString "http" && port = 80) || (scheme = .ofString "https" && port = 443)

end Uri

open Uri

/-- The stripped address, or nothing. -/
def strippedUri (uri : PyStr) : Option PyStr := if uri.strip.isEmpty then none else some uri.strip

/-- source `canonicalize_uri` -/
def canonicalizeUri (library : Library) : Option PyStr → Except GraphError (Option PyStr)
  | none => .ok none
  | some [] => .ok none
  | some uri =>
    match urlsplit library uri.strip with
    | none => .ok (strippedUri uri)
    | some parsed =>
      if parsed.scheme.isEmpty || parsed.netloc.isEmpty then .ok (strippedUri uri)
      else
        match port parsed with
        | .error error => .error error
        | .ok port =>
          let host := library.lower (hostname library parsed)
          let host := match port with
            | some port =>
              if port ≠ 0 && !impliedPort parsed.scheme port then
                host ++ [colon] ++ .ofString (toString port)
              else host
            | none => host
          match urlencode ((keptParameters library parsed).mergeSort pairLe) with
          | .error error => .error error
          | .ok query =>
            let path := if parsed.path.isEmpty then [slash] else parsed.path
            .ok (some (urlunsplit (library.lower parsed.scheme) host path query))

section Exceptions

variable {library : Library}

/-- The address, when it is split and has a scheme and an authority, has no port or a good one, and only
    parameters without lone surrogates, but for tracking parameters. -/
def Canonicalizable (library : Library) (uri : Option PyStr) : Prop :=
  ∀ text parsed, uri = some text → text ≠ [] → urlsplit library text.strip = some parsed →
    parsed.scheme ≠ [] → parsed.netloc ≠ [] →
      ((hostinfo parsed).2 = [] ∨ isPort (hostinfo parsed).2 = true) ∧
        encodable (keptParameters library parsed) = true

lemma port_ok {parsed : SplitResult} :
    (∃ result, port parsed = .ok result) ↔ (hostinfo parsed).2 = [] ∨ isPort (hostinfo parsed).2 = true := by
  simp only [port]
  by_cases empty : (hostinfo parsed).2 = []
  · simp [empty]
  · have given : (hostinfo parsed).2.isEmpty = false := by simpa using empty
    cases good : isPort (hostinfo parsed).2 <;> simp [given, empty]

lemma urlencode_ok {parameters : List (PyStr × PyStr)} :
    (∃ result, urlencode (parameters.mergeSort pairLe) = .ok result) ↔ encodable parameters = true := by
  have sorted : encodable (parameters.mergeSort pairLe) = encodable parameters := by
    simp only [encodable]
    rw [Bool.eq_iff_iff, List.all_eq_true, List.all_eq_true]
    simp only [List.mem_mergeSort]
  rw [urlencode, sorted]
  cases encodable parameters <;> simp

/-- When `canonicalize_uri` returns. -/
lemma canonicalizeUri_ok {uri : Option PyStr} :
    (∃ result, canonicalizeUri library uri = .ok result) ↔ Canonicalizable library uri := by
  match uri with
  | none => exact ⟨fun _ => nofun, fun _ => ⟨none, rfl⟩⟩
  | some [] =>
    refine ⟨fun _ text parsed given nonempty => ?_, fun _ => ⟨none, rfl⟩⟩
    exact absurd (Option.some.inj given).symm nonempty
  | some (c :: cs) =>
    have here : Canonicalizable library (some (c :: cs)) ↔ ∀ parsed,
        urlsplit library (PyStr.strip (c :: cs)) = some parsed → parsed.scheme ≠ [] → parsed.netloc ≠ [] →
          ((hostinfo parsed).2 = [] ∨ isPort (hostinfo parsed).2 = true) ∧
            encodable (keptParameters library parsed) = true := by
      refine ⟨fun canonical parsed => canonical _ parsed rfl (List.cons_ne_nil c cs), ?_⟩
      rintro canonical _ parsed ⟨⟩ -
      exact canonical parsed
    rw [here]
    simp only [canonicalizeUri]
    cases urlsplit library (PyStr.strip (c :: cs)) with
    | none => exact ⟨fun _ => nofun, fun _ => ⟨_, rfl⟩⟩
    | some parsed =>
      dsimp only
      split
      · next bare =>
        refine ⟨?_, fun _ => ⟨_, rfl⟩⟩
        rintro - _ ⟨⟩ scheme netloc
        rw [Bool.or_eq_true, List.isEmpty_iff, List.isEmpty_iff] at bare
        exact absurd bare (not_or.mpr ⟨scheme, netloc⟩)
      · next bare =>
        rw [Bool.or_eq_true, List.isEmpty_iff, List.isEmpty_iff, not_or] at bare
        have split : (∀ parsed', some parsed = some parsed' → parsed'.scheme ≠ [] → parsed'.netloc ≠ [] →
            ((hostinfo parsed').2 = [] ∨ isPort (hostinfo parsed').2 = true) ∧
              encodable (keptParameters library parsed') = true) ↔
            (∃ result, port parsed = .ok result) ∧
              ∃ result, urlencode ((keptParameters library parsed).mergeSort pairLe) = .ok result := by
          rw [port_ok, urlencode_ok]
          refine ⟨fun all => all parsed rfl bare.1 bare.2, ?_⟩
          rintro here _ ⟨⟩ - -
          exact here
        rw [split]
        cases port parsed with
        | error error => simp
        | ok port => cases urlencode ((keptParameters library parsed).mergeSort pairLe) <;> simp

end Exceptions

end AgentRuntime.Graph
