import ConnectSDK.Foundation.SplicedMarkup
import ConnectSDK.Services.Sessions.LaunchSession

/-! # Envelopes of Netcast commands

The XML texts that `NetcastTVService` formats to launch and close apps and to pair, into
which it puts the strings as they are.
-/

namespace ConnectSDK

namespace NetcastEnvelope

open XML

/-- What `%@` makes of a string. -/
def described (text : Option String) : String :=
  text.getD "(null)"

/-- `contentId` is the text of `cpid` in the raw data of the app. -/
def launchAppWithInfo (id name contentId : Option String) : String :=
  "<envelope>" ++
    "<api type=\"command\">" ++
      "<name>AppExecute</name>" ++
      "<auid>" ++ described id ++ "</auid>" ++
      "<appname>" ++ described name ++ "</appname>" ++
      "<contentId>" ++ described contentId ++ "</contentId>" ++
    "</api>" ++
  "</envelope>"

def smartShareName : String := "SmartShare™"

/-- Without an id an app is closed by its name, unless it is the one for sharing. -/
def closeApp (launchSession : LaunchSession) : Option String :=
  if launchSession.name ≠ some smartShareName ∧ launchSession.appId.all String.isEmpty = true then
    none
  else
    some ("<envelope>" ++
      "<api type=\"command\">" ++
        "<name>AppTerminate</name>" ++
        "<auid>" ++ launchSession.appId.getD "" ++ "</auid>" ++
        "<appname>" ++ launchSession.name.getD "" ++ "</appname>" ++
      "</api>" ++
    "</envelope>")

/-- `port` is that of the URL for commands. -/
def pairWithData (pairingCode : Option String) (port : Option Nat) : String :=
  "<envelope>" ++
    "<api type=\"pairing\">" ++
      "<name>hello</name>" ++
      "<value>" ++ described pairingCode ++ "</value>" ++
      "<port>" ++ described (port.map Nat.repr) ++ "</port>" ++
    "</api>" ++
  "</envelope>"

/-! ## What the envelopes are for -/

def field (name text : String) : Field :=
  { name := name.toList, text := text.toList }

/-- The elements of an envelope of a type. -/
def tree (type : String) (fields : List Field) : Item :=
  .element "envelope".toList []
    [.element "api".toList [("type".toList, type.toList)] (fields.map Field.item)]

def launchFields (id name contentId : Option String) : List Field :=
  [field "name" "AppExecute", field "auid" (described id), field "appname" (described name),
    field "contentId" (described contentId)]

def closeFields (launchSession : LaunchSession) : List Field :=
  [field "name" "AppTerminate", field "auid" (launchSession.appId.getD ""),
    field "appname" (launchSession.name.getD "")]

def pairFields (pairingCode : Option String) (port : Option Nat) : List Field :=
  [field "name" "hello", field "value" (described pairingCode),
    field "port" (described (port.map Nat.repr))]

/-- A string of legal characters without `<`, `&`, carriage returns and `]]>`. -/
def IsPlain (text : String) : Prop :=
  XML.IsPlain text.toList ∧ '\r' ∉ text.toList

instance (text : String) : Decidable (IsPlain text) :=
  inferInstanceAs (Decidable (XML.IsPlain text.toList ∧ '\r' ∉ text.toList))

/-! ## Tags -/

/-- A character that stands for itself between quotation marks. -/
def isQuotable (c : Char) : Bool :=
  isChar c && !isSpace c && c != '<' && c != '&' && c != quotationMark

theorem attributeValue_self :
    ∀ {text : List Char}, (∀ c ∈ text, isQuotable c = true) →
      AttributeValue quotationMark text text
  | [], _ => .nil
  | c :: rest, all => by
      have here := all c List.mem_cons_self
      simp only [isQuotable, Bool.and_eq_true, Bool.not_eq_true', bne_iff_ne] at here
      rcases here with ⟨⟨⟨⟨legal, noSpace⟩, noTag⟩, noReference⟩, noQuote⟩
      exact .character legal noSpace ⟨noTag, noReference⟩ noQuote
        (attributeValue_self fun d member => all d (List.mem_cons_of_mem c member))

def isNameText : List Char → Bool
  | [] => false
  | first :: rest => isWithin nameStartRanges first && (first :: rest).all isNameChar

theorem isName_of_isNameText {name : List Char} (spelled : isNameText name = true) :
    IsName name := by
  cases name with
  | nil => cases spelled
  | cons first rest =>
      rcases Bool.and_eq_true_iff.mp spelled with ⟨start, all⟩
      exact ⟨⟨first, rest, rfl, start⟩, List.all_eq_true.mp all⟩

/-- The elements that hold the others. -/
def holders : List Field := [field "api" "", field "envelope" ""]

def closes : List Char := (field "api" "").endTag ++ (field "envelope" "").endTag

theorem distinct_of_names {fields : List Field} {names : List (List Char)}
    (named : fields.map Field.name = names) (areNames : names.all isNameText = true)
    (nodup : names.Nodup)
    (apart : (holders.map Field.name).all (fun name => !names.contains name) = true) :
    Distinct fields closes := by
  have isName : ∀ field ∈ fields, IsName field.name := by
    intro field member
    apply isName_of_isNameText
    apply List.all_eq_true.mp areNames
    rw [← named]
    exact List.mem_map_of_mem member
  refine ⟨isName, named ▸ nodup, ?_⟩
  intro field member text ends behind
  have areHolders : ∀ holder ∈ holders, IsName holder.name := by
    intro holder member
    apply isName_of_isNameText
    have all : (holders.map Field.name).all isNameText = true := by decide
    exact List.all_eq_true.mp all _ (List.mem_map_of_mem member)
  have inClosing : text <:+ holders.flatMap Field.endTag := behind
  rcases ends.mem_of_suffix (isName field member) areHolders inClosing with
    ⟨holder, isHolder, same⟩
  have absent := List.all_eq_true.mp apart _ (List.mem_map_of_mem isHolder)
  rw [Bool.not_eq_true', List.contains_eq_mem, decide_eq_false_iff_not, same, ← named] at absent
  exact absent (List.mem_map_of_mem member)

/-- The tag `<api type="…">`. -/
def apiTag (type : String) : List Char :=
  '<' :: ("api type=".toList ++ quotationMark :: (type.toList ++ [quotationMark, '>']))

theorem apiTag_isStartTag {type : String}
    (all : type.toList.all isQuotable = true) :
    StartTag (apiTag type) "api".toList [("type".toList, type.toList)] := by
  have isSpaces : IsSpaces [' '] := by
    intro c member
    rw [List.mem_singleton.mp member]
    rfl
  have noSpaces : IsSpaces [] := fun _ member => by cases member
  have isType : IsName "type".toList := isName_of_isNameText (by decide)
  have attributes := Attributes.cons isSpaces isType noSpaces noSpaces (.inl rfl)
    (attributeValue_self (List.all_eq_true.mp all)) List.not_mem_nil (.nil noSpaces)
  refine ⟨isName_of_isNameText (by decide), _, attributes, ?_⟩
  simp [apiTag]

theorem document_iff {type : String} {fields : List Field}
    (all : type.toList.all isQuotable = true) (absent : '\r' ∉ apiTag type) (distinct : Distinct fields closes) :
    Document ((field "envelope" "").startTag ++ (apiTag type ++ (spliced fields ++ closes)))
        (tree type fields) ↔
      ∀ field ∈ fields, field.IsPlain :=
  have isEnvelope : IsName "envelope".toList := isName_of_isNameText (by decide)
  have isAPI : IsName "api".toList := isName_of_isNameText (by decide)
  document_spliced_iff (Field.isStartTag isEnvelope) (Field.isEndTag isEnvelope)
    (apiTag_isStartTag all) (Field.isEndTag isAPI) (by decide) absent (by decide) distinct

theorem launch_written (id name contentId : Option String) :
    (launchAppWithInfo id name contentId).toList = (field "envelope" "").startTag ++
      (apiTag "command" ++ (spliced (launchFields id name contentId) ++ closes)) := by
  unfold launchAppWithInfo
  simp [launchFields, spliced, field, Field.startTag, Field.endTag, closes, apiTag,
    quotationMark]

theorem close_written {launchSession : LaunchSession} {payload : String}
    (closed : closeApp launchSession = some payload) :
    payload.toList = (field "envelope" "").startTag ++
      (apiTag "command" ++ (spliced (closeFields launchSession) ++ closes)) := by
  unfold closeApp at closed
  split at closed
  · cases closed
  · cases closed
    simp [closeFields, spliced, field, Field.startTag, Field.endTag, closes, apiTag,
      quotationMark]

theorem pair_written (pairingCode : Option String) (port : Option Nat) :
    (pairWithData pairingCode port).toList = (field "envelope" "").startTag ++
      (apiTag "pairing" ++ (spliced (pairFields pairingCode port) ++ closes)) := by
  unfold pairWithData
  simp [pairFields, spliced, field, Field.startTag, Field.endTag, closes, apiTag,
    quotationMark]

/-- Texts without the characters that markup is made of stand for themselves. -/
theorem isPlain_of_all : ∀ {text : List Char}, (∀ c ∈ text, isChar c = true ∧ c ≠ '<' ∧
    c ≠ '&' ∧ c ≠ ']') → XML.IsPlain text
  | [], _ => trivial
  | c :: rest, all => by
      rcases all c List.mem_cons_self with ⟨legal, noTag, noReference, noBracket⟩
      refine ⟨legal, ⟨noTag, noReference⟩, ?_,
        isPlain_of_all fun d member => all d (List.mem_cons_of_mem c member)⟩
      intro starts
      exact noBracket (List.cons_prefix_cons.mp starts).1.symm

theorem isChar_of_isDigit {c : Char} (digit : c.isDigit = true) : isChar c = true := by
  simp only [Char.isDigit, Bool.and_eq_true, decide_eq_true_iff, UInt32.le_iff_toNat_le] at digit
  have low : 48 ≤ c.toNat := digit.1
  have high : c.toNat ≤ 57 := digit.2
  have inside : (decide (0x20 ≤ c.toNat) && c.toNat != 0xFFFE && c.toNat != 0xFFFF) = true := by
    simp only [Bool.and_eq_true, decide_eq_true_iff, bne_iff_ne]
    omega
  rw [isChar, inside, Bool.or_true]

theorem repr_isPlain (number : Nat) : IsPlain number.repr := by
  have digits : ∀ c ∈ number.repr.toList, c.isDigit = true := by
    rw [Nat.toList_repr]
    exact fun _ member => Nat.isDigit_of_mem_toDigits (by decide) (by decide) member
  have other : ∀ c ∈ number.repr.toList, ∀ d : Char, d.isDigit = false → c ≠ d := by
    intro c member d noDigit same
    rw [← same, digits c member] at noDigit
    cases noDigit
  refine ⟨isPlain_of_all fun c member => ⟨?_, other c member _ (by decide),
    other c member _ (by decide), other c member _ (by decide)⟩, ?_⟩
  · exact isChar_of_isDigit (digits c member)
  · intro member
    exact other _ member _ (by decide) rfl

theorem port_isPlain (port : Option Nat) : IsPlain (described (port.map Nat.repr)) := by
  cases port with
  | none => decide
  | some number => exact repr_isPlain number

/-! ## What is read -/

theorem launch_read_iff (id name contentId : Option String) :
    Document (launchAppWithInfo id name contentId).toList
        (tree "command" (launchFields id name contentId)) ↔
      IsPlain (described id) ∧ IsPlain (described name) ∧ IsPlain (described contentId) := by
  have named : (launchFields id name contentId).map Field.name =
    ["name".toList, "auid".toList, "appname".toList, "contentId".toList] := rfl
  have distinct := distinct_of_names named (by decide) (by decide) (by decide)
  have command : IsPlain "AppExecute" := by decide
  rw [launch_written, document_iff (by decide) (by decide) distinct]
  simp only [launchFields, List.forall_mem_cons, List.not_mem_nil, false_imp_iff, implies_true,
    and_true]
  exact and_iff_right command

theorem close_read_iff {launchSession : LaunchSession} {payload : String}
    (closed : closeApp launchSession = some payload) :
    Document payload.toList (tree "command" (closeFields launchSession)) ↔
      IsPlain (launchSession.appId.getD "") ∧ IsPlain (launchSession.name.getD "") := by
  have named : (closeFields launchSession).map Field.name =
    ["name".toList, "auid".toList, "appname".toList] := rfl
  have distinct := distinct_of_names named (by decide) (by decide) (by decide)
  have command : IsPlain "AppTerminate" := by decide
  rw [close_written closed, document_iff (by decide) (by decide) distinct]
  simp only [closeFields, List.forall_mem_cons, List.not_mem_nil, false_imp_iff, implies_true,
    and_true]
  exact and_iff_right command

theorem pair_read_iff (pairingCode : Option String) (port : Option Nat) :
    Document (pairWithData pairingCode port).toList
        (tree "pairing" (pairFields pairingCode port)) ↔
      IsPlain (described pairingCode) := by
  have named : (pairFields pairingCode port).map Field.name =
    ["name".toList, "value".toList, "port".toList] := rfl
  have distinct := distinct_of_names named (by decide) (by decide) (by decide)
  have command : IsPlain "hello" := by decide
  rw [pair_written, document_iff (by decide) (by decide) distinct]
  simp only [pairFields, List.forall_mem_cons, List.not_mem_nil, false_imp_iff, implies_true,
    and_true]
  exact ⟨fun plain => plain.2.1, fun plain => ⟨command, plain, port_isPlain port⟩⟩

/-- Each envelope is a document with the strings that were given in its elements exactly if
they are plain. -/
theorem envelopes_read_iff (id name contentId pairingCode : Option String)
    (port : Option Nat) (launchSession : LaunchSession) :
    (Document (launchAppWithInfo id name contentId).toList
        (tree "command" (launchFields id name contentId)) ↔
      IsPlain (described id) ∧ IsPlain (described name) ∧ IsPlain (described contentId)) ∧
    (∀ payload, closeApp launchSession = some payload →
      (Document payload.toList (tree "command" (closeFields launchSession)) ↔
        IsPlain (launchSession.appId.getD "") ∧ IsPlain (launchSession.name.getD ""))) ∧
    (Document (pairWithData pairingCode port).toList
        (tree "pairing" (pairFields pairingCode port)) ↔
      IsPlain (described pairingCode)) :=
  ⟨launch_read_iff id name contentId, fun _ => close_read_iff, pair_read_iff pairingCode port⟩

theorem envelopes_read_closing :
    ∃ payload, closeApp { appId := some "25", name := some "Music" } = some payload ∧
      Document payload.toList
        (tree "command"
          [field "name" "AppTerminate", field "auid" "25", field "appname" "Music"]) :=
  have closed : (closeApp { appId := some "25", name := some "Music" }).isSome = true := by
    decide
  have read := (envelopes_read_iff none none none none none
    { appId := some "25", name := some "Music" }).2.1 _ (Option.some_get closed).symm
  ⟨_, (Option.some_get closed).symm, read.mpr (by decide)⟩

/-- The ampersand in the name of an app is read as the start of a reference. -/
theorem ampersand_not_read :
    ¬Document (launchAppWithInfo (some "25") (some "Music & More") (some "1")).toList
      (tree "command" (launchFields (some "25") (some "Music & More") (some "1"))) := by
  rw [launch_read_iff]
  decide

end NetcastEnvelope

end ConnectSDK
