import ConnectSDK.Foundation.Dictionary

/-! # Writing XML

`XMLWriter`, which keeps the elements that are open and the namespaces in scope, and raises an
exception when it is asked for what it does not know.
-/

namespace ConnectSDK

/-- An element that is written to its end later. -/
structure StackedElement where
  namespaceURI : Option String
  localName : String

/-- The stacks of elements and of counts list their last object first. -/
structure XMLWriter where
  writer : String := ""
  level : Nat := 0
  openElement : Bool := false
  emptyElement : Bool := false
  elements : List StackedElement := []
  namespaceURIs : List String := []
  namespaceCounts : List Nat := []
  namespaceWritten : List Bool := []
  namespaceURIPrefixMap : Dictionary String String := ∅
  prefixNamespaceURIMap : Dictionary String String := ∅
  automaticEmptyElements : Bool := true
  indentation : Option String := none
  lineBreak : Option String := none

namespace XMLWriter

def xmlNamespaceURI : String := "http://www.w3.org/XML/1998/namespace"

def xmlNamespaceURIPrefix : String := "xml"

def xmlnsNamespaceURI : String := "http://www.w3.org/2000/xmlns/"

def xmlnsNamespaceURIPrefix : String := "xmlns"

/-! ## Text -/

/-- The UTF-16 units of a character. -/
def unitsOf (character : Char) : List UInt16 :=
  let code := character.toNat
  if code < 0x10000 then [UInt16.ofNat code]
  else
    [UInt16.ofNat (0xD800 + (code - 0x10000) / 0x400),
      UInt16.ofNat (0xDC00 + (code - 0x10000) % 0x400)]

def write (writer : XMLWriter) (value : String) : XMLWriter :=
  { writer with writer := writer.writer ++ value }

/-- A unit as it is escaped. One that XML excludes is skipped, and so is a surrogate. -/
def escapedUnit (unit : UInt16) : String :=
  if unit ≤ 0xD7FF then
    if 0x20 ≤ unit then
      if unit = 34 then "&quot;"
      else if unit = 38 then "&amp;"
      else if unit = 60 then "&lt;"
      else if unit = 62 then "&gt;"
      else String.singleton (Char.ofNat unit.toNat)
    else if unit = 0x0A ∨ unit = 0x0D ∨ unit = 0x09 then
      String.singleton (Char.ofNat unit.toNat)
    else ""
  else if unit < 0xE000 then ""
  else if unit ≤ 0xFFFD then String.singleton (Char.ofNat unit.toNat)
  else ""

def writeEscapeCharacters (writer : XMLWriter) (characters : List UInt16) (length : Int32) :
    XMLWriter :=
  writer.write (String.join ((characters.take length.toNatClampNeg).map escapedUnit))

/-- The length is cast to an `int`. Where the units cannot be pointed to, they are copied in
blocks, which writes the same. -/
def writeEscape (writer : XMLWriter) (value : String) : XMLWriter :=
  let characters := value.toList.flatMap unitsOf
  writer.writeEscapeCharacters characters (Int32.ofNat characters.length)

def writeLinebreak (writer : XMLWriter) : XMLWriter :=
  match writer.lineBreak with
  | none => writer
  | some lineBreak => writer.write lineBreak

def writeIndentation (writer : XMLWriter) : XMLWriter :=
  match writer.indentation with
  | none => writer
  | some indentation => writer.write (String.join (List.replicate writer.level indentation))

/-! ## Namespaces -/

def writeNamespaceToStream (writer : XMLWriter) (namespacePrefix : Option String)
    (namespaceURI : String) : Option XMLWriter :=
  if writer.openElement then do
    let xmlnsPrefix ← writer.namespaceURIPrefixMap.lookup xmlnsNamespaceURI
    let writer := (writer.write " ").write xmlnsPrefix
    let writer :=
      match namespacePrefix with
      | none => writer
      | some namespacePrefix =>
          if namespacePrefix = "" then writer
          else (writer.write ":").write namespacePrefix
    some (((writer.write "=\"").writeEscape namespaceURI).write "\"")
  else none

def addPrefixMapping (writer : XMLWriter) (namespacePrefix namespaceURI : String) :
    XMLWriter :=
  { writer with
    namespaceURIs := writer.namespaceURIs ++ [namespaceURI]
    namespaceURIPrefixMap := writer.namespaceURIPrefixMap.insert namespaceURI namespacePrefix
    prefixNamespaceURIMap := writer.prefixNamespaceURIMap.insert namespacePrefix namespaceURI }

/-- A namespace is written at once in an open element, else when the next element is
closed. -/
def setPrefix (writer : XMLWriter) (namespacePrefix namespaceURI : String) :
    Option XMLWriter :=
  if (writer.namespaceURIPrefixMap.lookup namespaceURI).isSome then none
  else if (writer.prefixNamespaceURIMap.lookup namespacePrefix).isSome then none
  else do
    let writer := writer.addPrefixMapping namespacePrefix namespaceURI
    let written := writer.openElement
    let writer ←
      if written then writer.writeNamespaceToStream (some namespacePrefix) namespaceURI
      else some writer
    some { writer with namespaceWritten := writer.namespaceWritten ++ [written] }

def init : Option XMLWriter := do
  let writer : XMLWriter := { namespaceCounts := [2] }
  let writer ← writer.setPrefix xmlNamespaceURIPrefix xmlNamespaceURI
  writer.setPrefix xmlnsNamespaceURIPrefix xmlnsNamespaceURI

/-- The count is pushed whether or not it differs from the last one. -/
def pushNamespaceStack (writer : XMLWriter) : XMLWriter :=
  { writer with namespaceCounts := writer.namespaceURIs.length :: writer.namespaceCounts }

def writeNamespaceAttribute (writer : XMLWriter) (index : Nat) : Option XMLWriter := do
  let written ← writer.namespaceWritten[index]?
  if written then some writer
  else
    let namespaceURI ← writer.namespaceURIs[index]?
    let writer ← writer.writeNamespaceToStream
      (writer.namespaceURIPrefixMap.lookup namespaceURI) namespaceURI
    some { writer with namespaceWritten := writer.namespaceWritten.set index true }

def writeNamespaceAttributes (writer : XMLWriter) : Option XMLWriter :=
  if writer.openElement then
    let previousCount := writer.namespaceCounts.headD 0
    (List.range' previousCount (writer.namespaceURIs.length - previousCount)).foldlM
      writeNamespaceAttribute writer
  else none

/-- One round of the loop of `popNamespaceStack`. -/
def removeNamespace (writer : XMLWriter) (index : Nat) : Option XMLWriter := do
  let removedNamespaceURI ← writer.namespaceURIs[index]?
  let removedPrefix ← writer.namespaceURIPrefixMap.lookup removedNamespaceURI
  some
    { writer with
      namespaceURIs := writer.namespaceURIs.dropLast
      namespaceWritten := writer.namespaceWritten.dropLast
      namespaceURIPrefixMap := writer.namespaceURIPrefixMap.erase removedNamespaceURI
      prefixNamespaceURIMap := writer.prefixNamespaceURIMap.erase removedPrefix }

def popNamespaceStack (writer : XMLWriter) : Option XMLWriter :=
  match writer.namespaceCounts with
  | previousCount :: currentCount :: counts => do
      let writer ← (List.range' currentCount (previousCount - currentCount)).reverse.foldlM
        removeNamespace writer
      some { writer with namespaceCounts := currentCount :: counts }
  | _ => none

/-! ## Elements -/

def writeCloseElement (writer : XMLWriter) (empty : Bool) : Option XMLWriter := do
  let writer ← writer.writeNamespaceAttributes
  let writer := writer.pushNamespaceStack
  let writer := writer.write (if empty then " />" else ">")
  some { writer with openElement := false }

/-- What stands before a start element, a comment or characters. -/
def closeOpenElement (writer : XMLWriter) : Option XMLWriter :=
  if writer.openElement then writer.writeCloseElement false else some writer

/-- The prefix of the namespace and a colon. -/
def writePrefix (writer : XMLWriter) : Option String → Option XMLWriter
  | none => some writer
  | some namespaceURI => do
      let namespacePrefix ← writer.namespaceURIPrefixMap.lookup namespaceURI
      some (if namespacePrefix = "" then writer
        else (writer.write namespacePrefix).write ":")

def writeStartElementWithNamespace (writer : XMLWriter) (namespaceURI : Option String)
    (localName : String) : Option XMLWriter := do
  let writer ← writer.closeOpenElement
  let writer := writer.writeLinebreak.writeIndentation.write "<"
  let writer ← writer.writePrefix namespaceURI
  let writer := writer.write localName
  some
    { writer with
      elements := { namespaceURI, localName } :: writer.elements
      openElement := true
      emptyElement := true
      level := writer.level + 1 }

/-- What stands before an end tag. -/
def endContents (writer : XMLWriter) : Option XMLWriter :=
  if writer.openElement then writer.writeCloseElement false
  else if writer.emptyElement then some writer.writeLinebreak.writeIndentation
  else some writer

def writeEndElementWithNamespace (writer : XMLWriter) (namespaceURI : Option String)
    (localName : String) : Option XMLWriter :=
  if writer.level = 0 then none
  else do
    let writer := { writer with level := writer.level - 1 }
    let writer ← writer.endContents
    let writer := writer.write "</"
    let writer ← writer.writePrefix namespaceURI
    let writer := (writer.write localName).write ">"
    let writer ← writer.popNamespaceStack
    some
      { writer with
        elements := writer.elements.tail
        openElement := false
        emptyElement := true }

/-- Ends the innermost element. One without contents is written as an empty element. -/
def writeEndElement (writer : XMLWriter) : Option XMLWriter :=
  match writer.elements with
  | [] => none
  | element :: elements =>
      if writer.openElement && writer.automaticEmptyElements then do
        let writer ← writer.writeCloseElement true
        let writer ← writer.popNamespaceStack
        some
          { writer with
            elements
            openElement := false
            emptyElement := true
            level := writer.level - 1 }
      else writer.writeEndElementWithNamespace element.namespaceURI element.localName

def writeAttributeWithNamespace (writer : XMLWriter) (namespaceURI : Option String)
    (localName value : String) : Option XMLWriter :=
  if writer.openElement then do
    let writer ← (writer.write " ").writePrefix namespaceURI
    some ((((writer.write localName).write "=\"").writeEscape value).write "\"")
  else none

def writeAttribute (writer : XMLWriter) (localName value : String) : Option XMLWriter :=
  writer.writeAttributeWithNamespace none localName value

def writeCharacters (writer : XMLWriter) (text : String) : Option XMLWriter := do
  let writer ← writer.closeOpenElement
  some { writer.writeEscape text with emptyElement := false }

def writeStartDocumentWithEncodingAndVersion (writer : XMLWriter)
    (encoding version : Option String) : Option XMLWriter :=
  if writer.writer ≠ "" then none
  else
    let writer := ((writer.write "<?xml version=\"").write (version.getD "1.0")).write "\""
    let writer :=
      match encoding with
      | none => writer
      | some encoding => ((writer.write " encoding=\"").write encoding).write "\""
    some (writer.write " ?>")

/-! ## Convenience methods -/

/-- `writeElement:withNamespace:andContentsBlock:`. -/
def writeElementWithBlock (writer : XMLWriter) (elementName : String)
    (namespaceURI : Option String) (writerBlock : XMLWriter → Option XMLWriter) :
    Option XMLWriter := do
  let writer ← writer.writeStartElementWithNamespace namespaceURI elementName
  let writer ← writerBlock writer
  writer.writeEndElement

/-- `writeElement:withNamespace:andContents:`. -/
def writeElement (writer : XMLWriter) (elementName : String) (namespaceURI : Option String)
    (contents : String) : Option XMLWriter :=
  writer.writeElementWithBlock elementName namespaceURI fun writer =>
    writer.writeCharacters contents

def writeAttributes (writer : XMLWriter) (attributes : Dictionary String String) :
    Option XMLWriter :=
  attributes.entries.foldlM (fun writer entry => writer.writeAttribute entry.1 entry.2) writer

end XMLWriter

end ConnectSDK
