namespace DomainLocator

inductive NameFault where
  | pointerLoop
  | pointerOutOfBounds
  | labelPastEnd
  | reservedLabelType
  deriving DecidableEq, Repr

inductive TagClass where
  | universal
  | application
  | contextSpecific
  | priv
  deriving DecidableEq, Repr

inductive BerType where
  | boolean
  | integer
  | octetString
  | enumerated
  | sequence
  | set
  deriving DecidableEq, Repr

inductive BerFault where
  | missingTag
  | missingTagOrLength
  | highTagNumber
  | indefiniteLength
  | longLength
  | truncatedLength
  | contentsPastEnd
  | expected (type : BerType)
  | booleanSize
  | emptyInteger
  | wideInteger
  | deepFilter
  deriving DecidableEq, Repr

inductive EnumeratedField where
  | scope
  | derefAliases
  deriving DecidableEq, Repr

inductive WireError where
  | malformedName (offset : Nat) (fault : NameFault)
  | truncated (offset : Nat)
  | unsupportedRecordType (code : UInt16)
  | unsupportedChoice (tagClass : TagClass) (number : Nat)
  | invalidBer (fault : BerFault)
  | invalidEnumerated (field : EnumeratedField) (value : Int32)
  | labelTooLong (size : Nat) (label : String)
  | emptyLabel (name : String)
  | sectionOverflow (count : Nat)
  deriving DecidableEq, Repr

def NameFault.message : NameFault → String
  | .pointerLoop => "compression pointer loop"
  | .pointerOutOfBounds => "compression pointer out of bounds"
  | .labelPastEnd => "label runs past end of buffer"
  | .reservedLabelType => "reserved label type"

def TagClass.name : TagClass → String
  | .universal => "Universal"
  | .application => "Application"
  | .contextSpecific => "ContextSpecific"
  | .priv => "Private"

def BerType.name : BerType → String
  | .boolean => "BOOLEAN"
  | .integer => "INTEGER"
  | .octetString => "OCTET STRING"
  | .enumerated => "ENUMERATED"
  | .sequence => "SEQUENCE"
  | .set => "SET"

def BerFault.message : BerFault → String
  | .missingTag => "missing tag"
  | .missingTagOrLength => "missing tag or length"
  | .highTagNumber => "high tag numbers are not supported"
  | .indefiniteLength => "indefinite length"
  | .longLength => "length has too many octets"
  | .truncatedLength => "truncated length"
  | .contentsPastEnd => "contents run past end of input"
  | .expected type => "expected " ++ type.name
  | .booleanSize => "BOOLEAN must be one octet"
  | .emptyInteger => "empty INTEGER"
  | .wideInteger => "INTEGER wider than 32 bits"
  | .deepFilter => "filter nested too deeply"

def EnumeratedField.name : EnumeratedField → String
  | .scope => "scope"
  | .derefAliases => "derefAliases"

def WireError.message : WireError → String
  | .malformedName offset fault => s!"malformed name at offset {offset}: " ++ fault.message
  | .truncated offset => s!"truncated message at offset {offset}"
  | .unsupportedRecordType code => s!"unsupported resource record type {code.toNat}"
  | .unsupportedChoice tagClass number => "unsupported LDAP choice " ++ tagClass.name ++ s!" [{number}]"
  | .invalidBer fault => "invalid BER encoding: " ++ fault.message
  | .invalidEnumerated field value => "invalid " ++ field.name ++ s!" value {value.toInt}"
  | .labelTooLong size label => s!"label of {size} bytes exceeds 63: {label}"
  | .emptyLabel name => s!"empty label inside name {name}"
  | .sectionOverflow count => s!"section of {count} records does not fit a 16 bit count"

end DomainLocator
