import Mathlib.Data.List.TakeWhile
import ConnectSDK.Frameworks.XMLScopes
import ConnectSDK.Helpers.ConnectError
import ConnectSDK.Helpers.MediaInfo
import ConnectSDK.Services.Commands.ServiceCommand
import ConnectSDK.Services.DLNAService

/-! # Playing media on a DLNA device

The MIME type of the media is cut at its slashes, and the metadata are written with the parts.
-/

namespace ConnectSDK

/-- A command to the transport of the device. Its success plays the media and then tells the
success block of the user. -/
structure TransportCommand where
  target : Option String
  payload : Dictionary String String
  callbackError : Option UserBlock
  success : Option UserBlock

/-- The commands that a call sends and the failure blocks that it calls. -/
structure TransportCalls where
  sent : List TransportCommand := []
  failures : List (UserBlock × NSError) := []

namespace DLNAService

def dataFieldName : String := "XMLData"

def actionFieldName : String := "SOAPAction"

def avTransportNamespace : String := "urn:schemas-upnp-org:service:AVTransport:1"

def soapNamespace : String := "http://schemas.xmlsoap.org/soap/envelope/"

def secSubtitleNamespace : String := "http://www.sec.co.kr/"

def pvSubtitleNamespace : String := "http://www.pv.com/pvns/"

def didlLiteNamespace : String := "urn:schemas-upnp-org:metadata-1-0/DIDL-Lite/"

def upnpNamespace : String := "urn:schemas-upnp-org:metadata-1-0/upnp/"

def dcNamespace : String := "http://purl.org/dc/elements/1.1/"

def defaultSubtitleMimeType : String := "text/srt"

def defaultSubtitleSubtype : String := "srt"

/-! ## MIME types -/

/-- `componentsSeparatedByString:` with a slash. -/
def slashComponents (text : String) : List String :=
  (text.toList.splitOnP (· == '/')).map String.ofList

/-- The first component, and the components of what follows the first slash. -/
theorem splitOnP_slash (text : List Char) :
    text.splitOnP (· == '/') =
      text.takeWhile (· != '/') ::
        match text.dropWhile (· != '/') with
        | [] => []
        | _ :: rest => rest.splitOnP (· == '/') := by
  induction text with
  | nil => rfl
  | cons character text induction =>
      rw [List.splitOnP_cons_eq_if_modifyHead, List.takeWhile_cons, List.dropWhile_cons, bne]
      cases character == '/' with
      | true => rfl
      | false =>
          rw [induction]
          rfl

def beforeSlash (text : String) : List Char :=
  text.toList.takeWhile (· != '/')

/-- The part between the first slash and the next one or the end. -/
def afterSlash (text : String) : Option (List Char) :=
  match text.toList.dropWhile (· != '/') with
  | [] => none
  | _ :: rest => some (rest.takeWhile (· != '/'))

theorem isSome_afterSlash_iff (text : String) :
    (afterSlash text).isSome = true ↔ '/' ∈ text.toList := by
  have none_iff : text.toList.dropWhile (· != '/') = [] ↔ '/' ∉ text.toList := by
    rw [List.dropWhile_eq_nil_iff]
    constructor
    · intro other member
      exact bne_iff_ne.mp (other '/' member) rfl
    · intro absent character member
      exact bne_iff_ne.mpr fun same => absent (same ▸ member)
  rw [← not_iff_not, ← none_iff, afterSlash]
  split
  · rename_i nothing
    exact iff_of_true Bool.false_ne_true nothing
  · rename_i slash rest found
    rw [found]
    exact iff_of_false (not_not.mpr rfl) (List.cons_ne_nil slash rest)

theorem slashComponents_getElem_zero (text : String) :
    (slashComponents text)[0]? = some (String.ofList (beforeSlash text)) := by
  rw [slashComponents, splitOnP_slash]
  rfl

theorem slashComponents_getElem_one (text : String) :
    (slashComponents text)[1]? = (afterSlash text).map String.ofList := by
  rw [slashComponents, splitOnP_slash, List.map_cons, List.getElem?_cons_succ, afterSlash]
  cases text.toList.dropWhile (· != '/') with
  | nil => rfl
  | cons slash rest =>
      dsimp only
      rw [splitOnP_slash]
      rfl

/-- `nil` answers `nil` at every index, and an array raises past its end. -/
def objectAtIndex (objects : Option (List String)) (index : Nat) : Option (Option String) :=
  match objects with
  | none => some none
  | some objects => objects[index]?.map some

def isValidMimeType (mimeType : Option String) : Bool :=
  mimeType.any fun mimeType => mimeType.toList.contains '/'

def subtypeFromMimeType (mimeType : String) : Option String :=
  (slashComponents mimeType)[1]?

/-- The MIME type of a subtitle and its subtype, or the default ones. -/
def subtitleTypes (subtitleMimeType : Option String) : Option (String × String) :=
  match subtitleMimeType with
  | none => some (defaultSubtitleMimeType, defaultSubtitleSubtype)
  | some mimeType =>
      if isValidMimeType (some mimeType) then
        (subtypeFromMimeType mimeType).map fun subtitleType => (mimeType, subtitleType)
      else some (defaultSubtitleMimeType, defaultSubtitleSubtype)

/-! ## Metadata -/

def writePVSubtitleAttributes (subtitleURL subtitleType : String) (writer : XMLWriter) :
    Option XMLWriter := do
  let writer ← writer.setPrefix "pv" pvSubtitleNamespace
  let writer ← writer.writeAttributeWithNamespace (some pvSubtitleNamespace)
    "subtitleFileUri" subtitleURL
  writer.writeAttributeWithNamespace (some pvSubtitleNamespace) "subtitleFileType" subtitleType

def writeCaptionInfo (subtitleURL subtitleType : String) (writer : XMLWriter)
    (captionInfoTag : String) : Option XMLWriter :=
  writer.writeElementWithBlock captionInfoTag (some secSubtitleNamespace) fun writer => do
    let writer ← writer.writeAttributeWithNamespace (some secSubtitleNamespace)
      "type" subtitleType
    writer.writeCharacters subtitleURL

def writeSubtitleElements (subtitleURL mimeType subtitleType : String) (writer : XMLWriter) :
    Option XMLWriter := do
  let writer ← writer.writeElementWithBlock "res" none fun writer => do
    let writer ← writer.writeAttribute "protocolInfo" "http-get:*:smi/caption"
    writer.writeCharacters subtitleURL
  let writer ← writer.writeElementWithBlock "res" none fun writer => do
    let writer ← writer.writeAttribute "protocolInfo" ("http-get:*:" ++ mimeType ++ ":*")
    writer.writeCharacters subtitleURL
  ["CaptionInfo", "CaptionInfoEx"].foldlM (writeCaptionInfo subtitleURL subtitleType) writer

def itemAttributes : Dictionary String String :=
  Dictionary.insertAll [("id", "0"), ("parentID", "0"), ("restricted", "0")] ∅

/-- The element `res` of the media itself. -/
def writeResource (mediaInfo : MediaInfo) (mimeType subtitleType : String)
    (writer : XMLWriter) : Option XMLWriter :=
  writer.writeElementWithBlock "res" none fun writer => do
    let writer ← whenSome mediaInfo.subtitleInfo
      (fun subtitleInfo => writePVSubtitleAttributes subtitleInfo.url subtitleType) writer
    let writer ← writer.writeAttribute "protocolInfo"
      ("http-get:*:" ++ mimeType ++
        ":DLNA.ORG_PN=MP3;DLNA.ORG_OP=01;DLNA.ORG_FLAGS=01500000000000000000000000000000")
    writer.writeCharacters (mediaInfo.url.getD "")

/-- The attributes and the contents of the element `item`. -/
def writeItem (mediaInfo : MediaInfo) (mediaType mimeType : String) (writer : XMLWriter) :
    Option XMLWriter := do
  let writer ← writer.writeAttributes itemAttributes
  let writer ← whenSome mediaInfo.title
    (fun title writer => writer.writeElement "title" (some dcNamespace) title) writer
  let writer ← whenSome mediaInfo.description
    (fun description writer =>
      writer.writeElement "description" (some dcNamespace) description) writer
  let (subtitleMimeType, subtitleType) ←
    subtitleTypes (mediaInfo.subtitleInfo.bind SubtitleInfo.mimeType)
  let writer ← writeResource mediaInfo mimeType subtitleType writer
  let writer ← writer.writeElement "albumArtURI" (some upnpNamespace)
    (mediaInfo.iconURL.getD "")
  let writer ← writer.writeElement "class" (some upnpNamespace)
    ("object.item." ++ mediaType ++ "Item")
  whenSome mediaInfo.subtitleInfo
    (fun subtitleInfo => writeSubtitleElements subtitleInfo.url subtitleMimeType subtitleType)
    writer

def writeMetadata (mediaInfo : MediaInfo) (mediaType mimeType : String) (writer : XMLWriter) :
    Option XMLWriter := do
  let writer ← writer.setPrefix "upnp" upnpNamespace
  let writer ← writer.setPrefix "dc" dcNamespace
  let writer ← writer.setPrefix "sec" secSubtitleNamespace
  writer.writeElementWithBlock "DIDL-Lite" none fun writer => do
    let writer ← writer.writeAttribute "xmlns" didlLiteNamespace
    writer.writeElementWithBlock "item" none (writeItem mediaInfo mediaType mimeType)

def metadataXML (mediaInfo : MediaInfo) (mediaType mimeType : String) : Option String := do
  let writer ← XMLWriter.init
  let writer ← writeMetadata mediaInfo mediaType mimeType writer
  some writer.writer

section Play

variable (collection : JSON → String)

def mimeTypeError : NSError :=
  ConnectError.generateErrorWithCode collection .argumentError
    (some (.string "You must provide a valid mimeType (audio/*, video/*, etc)"))

def playMediaMetadataXMLForMediaInfo (mediaInfo : MediaInfo) :
    Option (Except NSError String) := do
  let mediaElements := mediaInfo.mimeType.map slashComponents
  let mediaType ← objectAtIndex mediaElements 0
  let mediaFormat ← objectAtIndex mediaElements 1
  match mediaType, mediaFormat with
  | some mediaType, some mediaFormat =>
      if mediaType = "" ∨ mediaFormat = "" then some (.error (mimeTypeError collection))
      else
        let mediaFormat := if mediaFormat = "mp3" then "mpeg" else mediaFormat
        let mimeType := mediaType ++ "/" ++ mediaFormat
        (metadataXML mediaInfo mediaType mimeType).map .ok
  | _, _ => some (.error (mimeTypeError collection))

end Play

/-! ## The command -/

def writeCommand (commandName commandNamespace : String)
    (writerBlock : Option (XMLWriter → Option XMLWriter)) (writer : XMLWriter) :
    Option XMLWriter := do
  let writer ← writer.writeStartDocumentWithEncodingAndVersion (some "UTF-8") (some "1.0")
  let writer ← writer.setPrefix "s" soapNamespace
  let writer ← writer.setPrefix "u" commandNamespace
  writer.writeElementWithBlock "Envelope" (some soapNamespace) fun writer => do
    let writer ← writer.writeAttribute "s:encodingStyle"
      "http://schemas.xmlsoap.org/soap/encoding/"
    writer.writeElementWithBlock "Body" (some soapNamespace) fun writer =>
      writer.writeElementWithBlock commandName (some commandNamespace) fun writer => do
        let writer ← writer.writeAttribute "xmlns:u" commandNamespace
        let writer ← writer.writeElement "InstanceID" none "0"
        whenSome writerBlock (fun writerBlock => writerBlock) writer

def commandXMLForCommandName (commandName commandNamespace : String)
    (writerBlock : Option (XMLWriter → Option XMLWriter)) : Option String := do
  let writer ← XMLWriter.init
  let writer ← writeCommand commandName commandNamespace writerBlock writer
  some writer.writer

section Play

variable (collection : JSON → String)

def setAVTransportURIAction : String :=
  "\"urn:schemas-upnp-org:service:AVTransport:1#SetAVTransportURI\""

def writeURL (mediaInfoURLString metadataXML : String) (writer : XMLWriter) :
    Option XMLWriter := do
  let writer ← writer.writeElement "CurrentURI" none mediaInfoURLString
  writer.writeElement "CurrentURIMetaData" none metadataXML

def playMediaWithMediaInfo (avTransportControlURL : Option String) (mediaInfo : MediaInfo)
    (success failure : Option UserBlock) : Option TransportCalls := do
  match ← playMediaMetadataXMLForMediaInfo collection mediaInfo with
  | .error error => some { failures := failure.toList.map fun block => (block, error) }
  | .ok metadataXML =>
      let setURLXML ← commandXMLForCommandName "SetAVTransportURI" avTransportNamespace
        (some (writeURL (mediaInfo.url.getD "") metadataXML))
      some
        { sent :=
            [{ target := avTransportControlURL
               payload := Dictionary.insertAll
                 [(actionFieldName, setAVTransportURIAction), (dataFieldName, setURLXML)] ∅
               callbackError := failure
               success }] }

end Play

/-! ## What is written -/

section Written

open XMLWriter

variable {level : Nat} {elements : List StackedElement} {counts : List Nat}
  {bindings : List Binding}

/-- The prefixes of the metadata. -/
def metadataBindings : List Binding :=
  initialBindings ++ [("upnp", upnpNamespace)] ++ [("dc", dcNamespace)] ++
    [("sec", secSubtitleNamespace)]

def pvBinding : Binding := ("pv", pvSubtitleNamespace)

theorem exists_subtitleTypes (subtitleMimeType : Option String) :
    ∃ types, subtitleTypes subtitleMimeType = some types := by
  cases subtitleMimeType with
  | none => exact ⟨_, rfl⟩
  | some mimeType =>
      rw [subtitleTypes]
      split
      · rename_i valid
        rcases Option.isSome_iff_exists.mp
          ((isSome_afterSlash_iff mimeType).mpr (List.contains_iff_mem.mp valid)) with
          ⟨part, found⟩
        rw [subtypeFromMimeType, slashComponents_getElem_one, found]
        exact ⟨_, rfl⟩
      · exact ⟨_, rfl⟩

theorem completing_writePVSubtitleAttributes (subtitleURL subtitleType : String) :
    Completing (Within true level elements counts metadataBindings)
      (writePVSubtitleAttributes subtitleURL subtitleType)
      (Within true level elements counts (metadataBindings ++ [pvBinding])) := by
  have known : Knows (metadataBindings ++ [pvBinding]) (some pvSubtitleNamespace) :=
    knows_some (by decide)
  exact Completing.bind (completing_setPrefix (by decide) (by decide))
    (Completing.bind (completing_writeAttributeWithNamespace known _ _)
      (completing_writeAttributeWithNamespace known _ _))

/-- An attribute and a text. -/
theorem completing_described {namespaceURI : Option String}
    (known : Knows bindings namespaceURI) (localName value text : String) :
    Completing (Within true level elements counts bindings)
      (fun writer => do
        let writer ← writer.writeAttributeWithNamespace namespaceURI localName value
        writer.writeCharacters text)
      (Inside level elements counts bindings) :=
  Completing.bind (completing_writeAttributeWithNamespace known localName value)
    ((completing_writeCharacters text).of_stronger fun _ => Within.inside)

theorem completing_writeResource (mediaInfo : MediaInfo) (mimeType subtitleType : String) :
    Completing (Inside level elements counts metadataBindings)
      (writeResource mediaInfo mimeType subtitleType)
      (Inside level elements counts metadataBindings) := by
  unfold writeResource
  -- Only the attributes of a subtitle bind another prefix.
  cases mediaInfo.subtitleInfo with
  | none =>
      exact completing_writeElementWithBlock knows_none List.prefix_rfl
        (Completing.bind Completing.skip (completing_described knows_none _ _ _))
  | some subtitleInfo =>
      exact completing_writeElementWithBlock knows_none (List.prefix_append _ _)
        (Completing.bind (completing_writePVSubtitleAttributes _ _)
          (completing_described knows_none _ _ _))

theorem completing_writeSubtitleElements (subtitleURL mimeType subtitleType : String) :
    Completing (Inside level elements counts metadataBindings)
      (writeSubtitleElements subtitleURL mimeType subtitleType)
      (Inside level elements counts metadataBindings) := by
  have known : Knows metadataBindings (some secSubtitleNamespace) := knows_some (by decide)
  refine Completing.bind (completing_writeElementWithBlock knows_none List.prefix_rfl
    (completing_described knows_none _ _ _)) ?_
  refine Completing.bind (completing_writeElementWithBlock knows_none List.prefix_rfl
    (completing_described knows_none _ _ _)) ?_
  exact Completing.foldlM fun captionInfoTag _ =>
    completing_writeElementWithBlock known List.prefix_rfl (completing_described known _ _ _)

theorem completing_writeItem (mediaInfo : MediaInfo) (mediaType mimeType : String) :
    Completing (Within true level elements counts metadataBindings)
      (writeItem mediaInfo mediaType mimeType)
      (Inside level elements counts metadataBindings) := by
  have dc : Knows metadataBindings (some dcNamespace) := knows_some (by decide)
  have upnp : Knows metadataBindings (some upnpNamespace) := knows_some (by decide)
  rcases exists_subtitleTypes (mediaInfo.subtitleInfo.bind SubtitleInfo.mimeType) with
    ⟨⟨subtitleMimeType, subtitleType⟩, found⟩
  unfold writeItem
  rw [found]
  refine Completing.bind (completing_writeAttributes itemAttributes)
    (Completing.of_stronger ?_ fun _ => Within.inside)
  refine Completing.bind
    (Completing.whenSome fun title _ => completing_writeElement dc "title" title) ?_
  refine Completing.bind (Completing.whenSome fun description _ =>
    completing_writeElement dc "description" description) ?_
  refine Completing.bind (completing_writeResource _ _ _) ?_
  refine Completing.bind (completing_writeElement upnp _ _) ?_
  refine Completing.bind (completing_writeElement upnp _ _) ?_
  exact Completing.whenSome fun subtitleInfo _ => completing_writeSubtitleElements _ _ _

theorem completing_writeMetadata (mediaInfo : MediaInfo) (mediaType mimeType : String) :
    Completing (Within false level elements (initialBindings.length :: counts) initialBindings)
      (writeMetadata mediaInfo mediaType mimeType)
      (Within false level elements (initialBindings.length :: counts) initialBindings) := by
  have keeps : initialBindings <+: metadataBindings := by decide
  refine Completing.bind (completing_setPrefix (by decide) (by decide)) ?_
  refine Completing.bind (completing_setPrefix (by decide) (by decide)) ?_
  refine Completing.bind (completing_setPrefix (by decide) (by decide)) ?_
  refine completing_element completing_closeOpenElement_closed knows_none (by decide) keeps
    List.prefix_rfl ?_
  refine Completing.bind (completing_writeAttribute _ _)
    (Completing.of_stronger ?_ fun _ => Within.inside)
  exact completing_writeElementWithBlock knows_none List.prefix_rfl
    (completing_writeItem mediaInfo mediaType mimeType)

theorem exists_metadataXML (mediaInfo : MediaInfo) (mediaType mimeType : String) :
    ∃ xml, metadataXML mediaInfo mediaType mimeType = some xml := by
  rcases init_within with ⟨writer, started, _, within⟩
  rcases completing_writeMetadata mediaInfo mediaType mimeType writer within with
    ⟨last, written, _⟩
  rw [metadataXML, started, Option.bind_eq_bind, Option.bind_some, written]
  exact ⟨last.writer, rfl⟩

/-- The prefixes of a command. -/
def commandBindings (commandNamespace : String) : List Binding :=
  initialBindings ++ [("s", soapNamespace)] ++ [("u", commandNamespace)]

/-- The block writes elements into that of a command, wherever this one stands. -/
def WritesArguments (block : XMLWriter → Option XMLWriter) : Prop :=
  ∀ level elements counts,
    Completing (Inside level elements counts (commandBindings avTransportNamespace)) block
      (Inside level elements counts (commandBindings avTransportNamespace))

theorem completing_writeCommand (commandName : String)
    {writerBlock : Option (XMLWriter → Option XMLWriter)}
    (contents : ∀ block, writerBlock = some block → WritesArguments block) :
    Completing
      (fun writer => writer.writer = "" ∧
        writer.Within false level elements (initialBindings.length :: counts) initialBindings)
      (writeCommand commandName avTransportNamespace writerBlock)
      (Within false level elements (initialBindings.length :: counts) initialBindings) := by
  have keeps : initialBindings <+: commandBindings avTransportNamespace := by decide
  have soap : Knows (commandBindings avTransportNamespace) (some soapNamespace) :=
    knows_some (by decide)
  have command : Knows (commandBindings avTransportNamespace) (some avTransportNamespace) :=
    knows_some (by decide)
  refine Completing.bind completing_writeStartDocument ?_
  refine Completing.bind (completing_setPrefix (by decide) (by decide)) ?_
  refine Completing.bind (completing_setPrefix (by decide) (by decide)) ?_
  refine completing_element completing_closeOpenElement_closed soap (by decide) keeps
    List.prefix_rfl ?_
  refine Completing.bind (completing_writeAttribute _ _)
    (Completing.of_stronger ?_ fun _ => Within.inside)
  refine completing_writeElementWithBlock soap List.prefix_rfl
    (Completing.of_stronger ?_ fun _ => Within.inside)
  refine completing_writeElementWithBlock command List.prefix_rfl ?_
  refine Completing.bind (completing_writeAttribute _ _)
    (Completing.of_stronger ?_ fun _ => Within.inside)
  exact Completing.bind (completing_writeElement knows_none _ _)
    (Completing.whenSome fun block same => contents block same _ _ _)

theorem exists_commandXML (commandName : String)
    {writerBlock : Option (XMLWriter → Option XMLWriter)}
    (contents : ∀ block, writerBlock = some block → WritesArguments block) :
    ∃ xml, commandXMLForCommandName commandName avTransportNamespace writerBlock = some xml := by
  rcases init_within with ⟨writer, started, within⟩
  rcases completing_writeCommand commandName contents writer within with ⟨last, written, _⟩
  rw [commandXMLForCommandName, started, Option.bind_eq_bind, Option.bind_some, written]
  exact ⟨last.writer, rfl⟩

end Written

/-! ## Playing -/

def MissingOrEmpty (part : Option (List Char)) : Prop :=
  part = none ∨ part = some []

/-- One of the parts around the first slash is missing or empty. -/
def LacksPart (mimeType : Option String) : Prop :=
  MissingOrEmpty (mimeType.map beforeSlash) ∨ MissingOrEmpty (mimeType.bind afterSlash)

end DLNAService

namespace TransportCalls

/-- One command is sent, which sets the URL of the media. -/
def Sends (calls : TransportCalls) : Prop :=
  ∃ command, calls.sent = [command] ∧
    command.payload.lookup DLNAService.actionFieldName =
      some DLNAService.setAVTransportURIAction ∧
    calls.failures = []

/-- Nothing is sent, and the failure block, if there is one, is called once with an argument
error. -/
def Fails (calls : TransportCalls) (failure : Option UserBlock) : Prop :=
  calls.sent = [] ∧ ∃ error : NSError,
    error.code = ConnectStatusCode.argumentError.rawValue ∧
      calls.failures = failure.toList.map fun block => (block, error)

theorem Sends.not_fails {calls : TransportCalls} (sends : calls.Sends)
    (failure : Option UserBlock) : ¬ calls.Fails failure := by
  rintro ⟨nothing, _⟩
  rcases sends with ⟨command, one, _⟩
  rw [nothing] at one
  cases one

end TransportCalls

namespace DLNAService

section Playing

variable {collection : JSON → String} {avTransportControlURL : Option String}
  {mediaInfo : MediaInfo} {success failure : Option UserBlock}

theorem objectAtIndex_zero (mimeType : String) :
    objectAtIndex (some (slashComponents mimeType)) 0 =
      some (some (String.ofList (beforeSlash mimeType))) := by
  rw [objectAtIndex, slashComponents_getElem_zero]
  rfl

theorem objectAtIndex_one (mimeType : String) :
    objectAtIndex (some (slashComponents mimeType)) 1 =
      (afterSlash mimeType).map fun part => some (String.ofList part) := by
  rw [objectAtIndex, slashComponents_getElem_one, Option.map_map]
  rfl

theorem metadata_of_nil (missing : mediaInfo.mimeType = none) :
    playMediaMetadataXMLForMediaInfo collection mediaInfo =
      some (.error (mimeTypeError collection)) := by
  rw [playMediaMetadataXMLForMediaInfo, missing]
  rfl

theorem metadata_of_noSlash {mimeType : String} (given : mediaInfo.mimeType = some mimeType)
    (noSlash : afterSlash mimeType = none) :
    playMediaMetadataXMLForMediaInfo collection mediaInfo = none := by
  rw [playMediaMetadataXMLForMediaInfo, given, Option.map_some]
  dsimp only
  rw [objectAtIndex_zero, objectAtIndex_one, noSlash]
  rfl

theorem metadata_of_slash {mimeType : String} {part : List Char}
    (given : mediaInfo.mimeType = some mimeType) (slash : afterSlash mimeType = some part) :
    ∃ xml, playMediaMetadataXMLForMediaInfo collection mediaInfo =
      if beforeSlash mimeType = [] ∨ part = [] then some (.error (mimeTypeError collection))
      else some (.ok xml) := by
  have empty_iff (part : List Char) : String.ofList part = "" ↔ part = [] := by
    rw [← String.ofList_nil, String.ofList_inj]
  rw [playMediaMetadataXMLForMediaInfo, given, Option.map_some]
  dsimp only
  rw [objectAtIndex_zero, objectAtIndex_one, slash]
  simp only [Option.map_some, Option.bind_eq_bind, Option.bind_some, empty_iff]
  by_cases lacks : beforeSlash mimeType = [] ∨ part = []
  · simp only [if_pos lacks]
    exact ⟨"", trivial⟩
  · rcases exists_metadataXML mediaInfo (String.ofList (beforeSlash mimeType))
      (String.ofList (beforeSlash mimeType) ++ "/" ++
        if String.ofList part = "mp3" then "mpeg" else String.ofList part) with ⟨xml, written⟩
    simp only [if_neg lacks, written]
    exact ⟨xml, rfl⟩

theorem play_of_error {error : NSError}
    (made : playMediaMetadataXMLForMediaInfo collection mediaInfo = some (.error error)) :
    playMediaWithMediaInfo collection avTransportControlURL mediaInfo success failure =
      some { failures := failure.toList.map fun block => (block, error) } := by
  rw [playMediaWithMediaInfo, made]
  rfl

theorem play_of_metadata {metadataXML : String}
    (made : playMediaMetadataXMLForMediaInfo collection mediaInfo = some (.ok metadataXML)) :
    ∃ calls,
      playMediaWithMediaInfo collection avTransportControlURL mediaInfo success failure =
        some calls ∧ calls.Sends := by
  have arguments : WritesArguments (writeURL (mediaInfo.url.getD "") metadataXML) :=
    fun level elements counts => Completing.bind
      (XMLWriter.completing_writeElement XMLWriter.knows_none _ _)
      (XMLWriter.completing_writeElement XMLWriter.knows_none _ _)
  have written := exists_commandXML "SetAVTransportURI" fun block same =>
    Option.some_inj.mp same ▸ arguments
  rcases written with ⟨setURLXML, written⟩
  rw [playMediaWithMediaInfo, made, Option.bind_eq_bind, Option.bind_some]
  dsimp only
  rw [written]
  exact ⟨_, rfl, _, rfl, rfl, rfl⟩

theorem play_of_noSlash {mimeType : String} (given : mediaInfo.mimeType = some mimeType)
    (noSlash : '/' ∉ mimeType.toList) :
    playMediaWithMediaInfo collection avTransportControlURL mediaInfo success failure = none := by
  have nothing : afterSlash mimeType = none :=
    Option.not_isSome_iff_eq_none.mp fun found => noSlash ((isSome_afterSlash_iff _).mp found)
  rw [playMediaWithMediaInfo, metadata_of_noSlash given nothing]
  rfl

theorem lacksPart_iff {mimeType : String} {part : List Char}
    (slash : afterSlash mimeType = some part) :
    LacksPart (some mimeType) ↔ beforeSlash mimeType = [] ∨ part = [] := by
  have missingOrEmpty_iff (part : List Char) : MissingOrEmpty (some part) ↔ part = [] := by
    rw [MissingOrEmpty, Option.some_inj]
    exact or_iff_right nofun
  rw [LacksPart, Option.map_some, Option.bind_some, slash, missingOrEmpty_iff,
    missingOrEmpty_iff]

/-- The call sends one command or fails once, and fails if and only if a part is lacking. -/
def PlaysOrFails (collection : JSON → String) (avTransportControlURL : Option String)
    (mediaInfo : MediaInfo) (success failure : Option UserBlock) : Prop :=
  ∃ calls,
    playMediaWithMediaInfo collection avTransportControlURL mediaInfo success failure =
      some calls ∧
    (calls.Sends ∨ calls.Fails failure) ∧
    (calls.Fails failure ↔ LacksPart mediaInfo.mimeType)

theorem playsOrFails_of_error
    (made : playMediaMetadataXMLForMediaInfo collection mediaInfo =
      some (.error (mimeTypeError collection)))
    (lacks : LacksPart mediaInfo.mimeType) :
    PlaysOrFails collection avTransportControlURL mediaInfo success failure := by
  have fails :
      TransportCalls.Fails
        { failures := failure.toList.map fun block => (block, mimeTypeError collection) }
        failure :=
    ⟨rfl, mimeTypeError collection, rfl, rfl⟩
  exact ⟨_, play_of_error made, .inr fails, iff_of_true fails lacks⟩

theorem playsOrFails_of_slash {mimeType : String} (given : mediaInfo.mimeType = some mimeType)
    (slash : '/' ∈ mimeType.toList) :
    PlaysOrFails collection avTransportControlURL mediaInfo success failure := by
  rcases Option.isSome_iff_exists.mp ((isSome_afterSlash_iff mimeType).mpr slash) with
    ⟨part, found⟩
  rcases metadata_of_slash given found with ⟨xml, made⟩
  have lacking : LacksPart mediaInfo.mimeType ↔ beforeSlash mimeType = [] ∨ part = [] := by
    rw [given]
    exact lacksPart_iff found
  by_cases lacks : beforeSlash mimeType = [] ∨ part = []
  · rw [if_pos lacks] at made
    exact playsOrFails_of_error made (lacking.mpr lacks)
  · rw [if_neg lacks] at made
    rcases play_of_metadata made with ⟨calls, played, sends⟩
    exact ⟨calls, played, .inl sends,
      iff_of_false (sends.not_fails failure) (mt lacking.mp lacks)⟩

end Playing

/-- A MIME type without a slash raises an exception. Every other one, and none at all, is
answered. -/
theorem plays_or_fails_iff (collection : JSON → String) (avTransportControlURL : Option String)
    (mediaInfo : MediaInfo) (success failure : Option UserBlock) :
    PlaysOrFails collection avTransportControlURL mediaInfo success failure ↔
      ∀ mimeType, mediaInfo.mimeType = some mimeType → '/' ∈ mimeType.toList := by
  constructor
  · rintro ⟨calls, played, _⟩ mimeType given
    by_contra noSlash
    rw [play_of_noSlash given noSlash] at played
    cases played
  · intro slash
    cases given : mediaInfo.mimeType with
    | none =>
        refine playsOrFails_of_error (metadata_of_nil given) ?_
        rw [given]
        exact .inl (.inl rfl)
    | some mimeType => exact playsOrFails_of_slash given (slash mimeType given)

theorem mime_type_without_slash_raises :
    ¬ PlaysOrFails (fun _ => "") (some "http://10.0.0.2/control")
      { url := some "http://10.0.0.1/song.mp3", mimeType := some "audio" } none (some 0) := by
  rintro ⟨calls, played, _⟩
  rw [play_of_noSlash rfl (by decide)] at played
  cases played

end DLNAService

end ConnectSDK
