import Mathlib.Data.List.DropRight
import ConnectSDK.Foundation.MutableCollections
import ConnectSDK.Foundation.XML
import ConnectSDK.Helpers.ConnectError

/-! # Dictionaries from XML

The parser tells the reader of a document. The dictionary of an element is held by that of the
element around it from its start tag on, while it is filled on the stack.
-/

namespace ConnectSDK

open Collections

inductive ParserEvent where
  | didStartElement (elementName : String) (attributeDict : List (String × String))
  | didEndElement (elementName : String)
  | foundCharacters (string : String)
  | parseErrorOccurred (parseError : NSError)

structure CTXMLReader where
  collections : Collections
  /-- The last object first. -/
  dictionaryStack : List (Ref Entries)
  textInProgress : String
  errorPointer : Option NSError

namespace CTXMLReader

def kCTXMLReaderTextNodeKey : String := "text"

/-- The ranges of `whitespaceAndNewlineCharacterSet`. -/
def whitespaceAndNewlineRanges : List (Nat × Nat) :=
  [(0x9, 0xD), (0x20, 0x20), (0x85, 0x85), (0xA0, 0xA0), (0x1680, 0x1680), (0x2000, 0x200A),
    (0x2028, 0x2029), (0x202F, 0x202F), (0x205F, 0x205F), (0x3000, 0x3000)]

def isWhitespaceOrNewline : Char → Bool :=
  XML.isWithin whitespaceAndNewlineRanges

def trimmed (text : List Char) : List Char :=
  (text.dropWhile isWhitespaceOrNewline).rdropWhile isWhitespaceOrNewline

def trimmedString (text : String) : String :=
  String.ofList (trimmed text.toList)

/-- Puts the dictionary of a new element into that of the element around it. -/
def addChild (parentDict childDict : Ref Entries) (elementName : String)
    (collections : Collections) : Collections :=
  match (collections.dictionaries.read parentDict).lookup elementName with
  | some (.array array) =>
      { collections with
        arrays := collections.arrays.modify array fun elements =>
          elements ++ [.dictionary childDict] }
  | some existingValue =>
      { dictionaries := collections.dictionaries.modify parentDict
          (setObject elementName (.array collections.arrays.fresh))
        arrays := collections.arrays.allocate [existingValue, .dictionary childDict] }
  | none =>
      { collections with
        dictionaries := collections.dictionaries.modify parentDict
          (setObject elementName (.dictionary childDict)) }

def attributeEntries (attributeDict : List (String × String)) : Entries :=
  attributeDict.map fun entry => (entry.1, .string entry.2)

def withChildDict (attributeDict : List (String × String)) (collections : Collections) :
    Collections :=
  { collections with
    dictionaries := collections.dictionaries.allocate (attributeEntries attributeDict) }

def didStartElement (elementName : String) (attributeDict : List (String × String))
    (reader : CTXMLReader) : CTXMLReader :=
  let childDict := reader.collections.dictionaries.fresh
  let collections := withChildDict attributeDict reader.collections
  { reader with
    collections :=
      match reader.dictionaryStack with
      | [] => collections
      | parentDict :: _ => addChild parentDict childDict elementName collections
    dictionaryStack := childDict :: reader.dictionaryStack }

def setText (dictInProgress : Ref Entries) (text : String) (collections : Collections) :
    Collections :=
  { collections with
    dictionaries := collections.dictionaries.modify dictInProgress
      (setObject kCTXMLReaderTextNodeKey (.string (trimmedString text))) }

def didEndElement (reader : CTXMLReader) : CTXMLReader :=
  let reader :=
    if reader.textInProgress = "" then reader
    else
      { reader with
        collections :=
          match reader.dictionaryStack with
          | [] => reader.collections
          | dictInProgress :: _ =>
              setText dictInProgress reader.textInProgress reader.collections
        textInProgress := "" }
  { reader with dictionaryStack := reader.dictionaryStack.tail }

def foundCharacters (string : String) (reader : CTXMLReader) : CTXMLReader :=
  { reader with textInProgress := reader.textInProgress ++ string }

def parseErrorOccurred (parseError : NSError) (reader : CTXMLReader) : CTXMLReader :=
  { reader with errorPointer := some parseError }

def handle (reader : CTXMLReader) : ParserEvent → CTXMLReader
  | .didStartElement elementName attributeDict =>
      reader.didStartElement elementName attributeDict
  | .didEndElement _ => reader.didEndElement
  | .foundCharacters string => reader.foundCharacters string
  | .parseErrorOccurred parseError => reader.parseErrorOccurred parseError

/-- A reader whose stack holds a fresh dictionary. -/
def start (error : Option NSError) : CTXMLReader where
  collections := { Collections.empty with dictionaries := Collections.empty.dictionaries.allocate [] }
  dictionaryStack := [Collections.empty.dictionaries.fresh]
  textInProgress := ""
  errorPointer := error

/-- The reader after the parser told `events` and returned `success`, and the root dictionary. -/
def objectWithData (error : Option NSError) (events : List ParserEvent) (success : Bool) :
    CTXMLReader × Option Value :=
  let reader := events.foldl handle (start error)
  (reader, if success then reader.dictionaryStack.getLast?.map .dictionary else none)

structure Result where
  collections : Collections
  rootDictionary : Option Value
  error : Option NSError

def dictionaryForXMLData (error : Option NSError) (events : List ParserEvent) (success : Bool) :
    Result :=
  let (reader, rootDictionary) := objectWithData error events success
  { collections := reader.collections
    rootDictionary
    error := if rootDictionary.isNone then reader.errorPointer else error }

/-! ## What a document stands for -/

def attributeDictOf (attributes : List (List Char × List Char)) : List (String × String) :=
  attributes.map fun entry => (String.ofList entry.1, String.ofList entry.2)

/-- The parser tells of the items in their order. It may tell of a text in several parts. -/
inductive Tells : List XML.Item → List ParserEvent → Prop where
  | nil : Tells [] []
  | characters {items : List XML.Item} {events : List ParserEvent} (text : List Char)
      (more : Tells items events) :
      Tells (text.map XML.Item.character ++ items) (.foundCharacters (String.ofList text) :: events)
  | element {name : List Char} {attributes : List (List Char × List Char)}
      {content items : List XML.Item} {inner events : List ParserEvent}
      (tells : Tells content inner) (more : Tells items events) :
      Tells (.element name attributes content :: items)
        (.didStartElement (String.ofList name) (attributeDictOf attributes) ::
          (inner ++ .didEndElement (String.ofList name) :: events))

/-- An element beside those of its name that are there already. -/
def addElement (name : String) (child : JSON) (fields : JSON.Fields) : JSON.Fields :=
  match fields.lookup name with
  | some (.array elements) => setObject name (.array (elements ++ [child])) fields
  | some existing => setObject name (.array [existing, child]) fields
  | none => setObject name child fields

def withText (fields : JSON.Fields) (text : String) : JSON.Fields :=
  if text = "" then fields
  else setObject kCTXMLReaderTextNodeKey (.string (trimmedString text)) fields

def attributeFields (attributes : List (List Char × List Char)) : JSON.Fields :=
  attributes.map fun entry =>
    (String.ofList entry.1, .string (String.ofList entry.2))

mutual
/-- The fields of the element around an item after it, and the text that waits for the next end
tag: what stands before a start tag goes to the element that starts. -/
def addItem : XML.Item → JSON.Fields × String → JSON.Fields × String
  | .character c, (fields, text) => (fields, text.push c)
  | .element name attributes content, (fields, text) =>
      let inner := addItems content (attributeFields attributes, text)
      (addElement (String.ofList name) (.object (withText inner.1 inner.2)) fields, "")

def addItems : List XML.Item → JSON.Fields × String → JSON.Fields × String
  | [], state => state
  | item :: items, state => addItems items (addItem item state)
end

/-- The root dictionary of a document. -/
def dictionaryOf (root : XML.Item) : JSON.Fields :=
  (addItem root ([], "")).1

end CTXMLReader

end ConnectSDK
