import Subschema.Document

namespace Subschema.Core

/-- The core attribute types: those of RFC 4512 and RFC 4519, with a few from older and newer
documents. -/
def attributeTypes : List Entry :=
  [⟨"2.5.4.0", ["objectClass"], [], some "RFC4512: object classes of the entity", false⟩,
   ⟨"2.5.4.1", ["aliasedObjectName", "aliasedEntryName"], [],
    some "RFC4512: name of aliased object", false⟩,
   ⟨"2.5.4.41", ["name"], [], some "RFC4519: common supertype of name attributes", false⟩,
   ⟨"2.5.4.3", ["cn", "commonName"], ["name"],
    some "RFC4519: common name(s) for which the entity is known by", false⟩,
   ⟨"2.5.4.4", ["sn", "surname"], ["name"],
    some "RFC4519: last (family) name(s) for which the entity is known by", false⟩,
   ⟨"2.5.4.5", ["serialNumber"], [], some "RFC4519: serial number of the entity", false⟩,
   ⟨"2.5.4.6", ["c", "countryName"], ["name"],
    some "RFC4519: two-letter ISO-3166 country code", false⟩,
   ⟨"2.5.4.7", ["l", "localityName"], ["name"],
    some "RFC4519: locality which this object resides in", false⟩,
   ⟨"2.5.4.8", ["st", "stateOrProvinceName"], ["name"],
    some "RFC4519: state or province which this object resides in", false⟩,
   ⟨"2.5.4.9", ["street", "streetAddress"], [],
    some "RFC4519: street address of this object", false⟩,
   ⟨"2.5.4.10", ["o", "organizationName"], ["name"],
    some "RFC4519: organization this object belongs to", false⟩,
   ⟨"2.5.4.11", ["ou", "organizationalUnitName"], ["name"],
    some "RFC4519: organizational unit this object belongs to", false⟩,
   ⟨"2.5.4.12", ["title"], ["name"], some "RFC4519: title associated with the entity", false⟩,
   ⟨"2.5.4.13", ["description"], [], some "RFC4519: descriptive information", false⟩,
   ⟨"2.5.4.16", ["postalAddress"], [], some "RFC4519: postal address", false⟩,
   ⟨"2.5.4.17", ["postalCode"], [], some "RFC4519: postal code", false⟩,
   ⟨"2.5.4.20", ["telephoneNumber"], [], some "RFC4519: Telephone Number", false⟩,
   ⟨"2.5.4.49", ["distinguishedName"], [],
    some "RFC4519: common supertype of DN attributes", false⟩,
   ⟨"2.5.4.31", ["member"], ["distinguishedName"], some "RFC4519: member of a group", false⟩,
   ⟨"2.5.4.32", ["owner"], ["distinguishedName"], some "RFC4519: owner (of the object)", false⟩,
   ⟨"2.5.4.33", ["roleOccupant"], ["distinguishedName"], some "RFC4519: occupant of role", false⟩,
   ⟨"2.5.4.34", ["seeAlso"], ["distinguishedName"], some "RFC4519: DN of related object", false⟩,
   ⟨"2.5.4.35", ["userPassword"], [], some "RFC4519: password of user", false⟩,
   ⟨"2.5.4.42", ["givenName", "gn"], ["name"],
    some "RFC4519: first name(s) for which the entity is known by", false⟩,
   ⟨"2.5.4.43", ["initials"], ["name"],
    some "RFC4519: initials of some or all of names, but not the surname(s)", false⟩,
   ⟨"2.5.4.44", ["generationQualifier"], ["name"],
    some "RFC4519: name qualifier indicating a generation", false⟩,
   ⟨"2.5.4.46", ["dnQualifier"], [], some "RFC4519: DN qualifier", false⟩,
   ⟨"2.5.4.50", ["uniqueMember"], [], some "RFC4519: unique member of a group", false⟩,
   ⟨"2.5.18.1", ["createTimestamp"], [], some "RFC4512: time which object was created", false⟩,
   ⟨"2.5.18.2", ["modifyTimestamp"], [],
    some "RFC4512: time which object was last modified", false⟩,
   ⟨"2.5.18.3", ["creatorsName"], [], some "RFC4512: name of creator", false⟩,
   ⟨"2.5.18.4", ["modifiersName"], [], some "RFC4512: name of last modifier", false⟩,
   ⟨"0.9.2342.19200300.100.1.1", ["uid", "userid"], [], some "RFC4519: user identifier", false⟩,
   ⟨"0.9.2342.19200300.100.1.3", ["mail", "rfc822Mailbox"], [],
    some "RFC1274: RFC822 Mailbox", false⟩,
   ⟨"0.9.2342.19200300.100.1.25", ["dc", "domainComponent"], [],
    some "RFC1274/2247: domain component", false⟩,
   ⟨"2.16.840.1.113730.3.1.3", ["employeeNumber"], [],
    some "RFC2798: identifies an employee within an organization", false⟩,
   ⟨"2.16.840.1.113730.3.1.241", ["displayName"], [],
    some "RFC2798: preferred name to be used when displaying entries", false⟩]

/-- The core object classes. -/
def objectClasses : List Entry :=
  [⟨"2.5.6.0", ["top"], [], some "RFC4512: top of the superclass chain", false⟩,
   ⟨"2.5.6.1", ["alias"], ["top"], some "RFC4512: an alias", false⟩,
   ⟨"2.5.6.2", ["country"], ["top"], some "RFC4519: a country", false⟩,
   ⟨"2.5.6.3", ["locality"], ["top"], some "RFC4519: a locality", false⟩,
   ⟨"2.5.6.4", ["organization"], ["top"], some "RFC4519: an organization", false⟩,
   ⟨"2.5.6.5", ["organizationalUnit"], ["top"], some "RFC4519: an organizational unit", false⟩,
   ⟨"2.5.6.6", ["person"], ["top"], some "RFC4519: a person", false⟩,
   ⟨"2.5.6.7", ["organizationalPerson"], ["person"],
    some "RFC4519: an organizational person", false⟩,
   ⟨"2.5.6.8", ["organizationalRole"], ["top"], some "RFC4519: an organizational role", false⟩,
   ⟨"2.5.6.9", ["groupOfNames"], ["top"], some "RFC4519: a group of names (DNs)", false⟩,
   ⟨"2.5.6.10", ["residentialPerson"], ["person"], some "RFC4519: an residential person", false⟩,
   ⟨"2.5.6.11", ["applicationProcess"], ["top"], some "RFC4519: an application process", false⟩,
   ⟨"2.5.6.12", ["applicationEntity"], ["top"], some "RFC2256: an application entity", false⟩,
   ⟨"2.5.6.13", ["dSA"], ["applicationEntity"],
    some "RFC2256: a directory system agent (a server)", false⟩,
   ⟨"2.5.6.14", ["device"], ["top"], some "RFC4519: a device", false⟩,
   ⟨"2.5.6.17", ["groupOfUniqueNames"], ["top"],
    some "RFC4519: a group of unique names (DN and Unique Identifier)", false⟩,
   ⟨"2.5.20.1", ["subschema"], ["top"], some "RFC4512: controlling subschema (sub)entry", false⟩,
   ⟨"1.3.6.1.4.1.1466.101.120.111", ["extensibleObject"], ["top"],
    some "RFC4512: extensible object", false⟩,
   ⟨"1.3.6.1.4.1.1466.344", ["dcObject"], ["top"], some "RFC2247: domain component object", false⟩,
   ⟨"1.3.6.1.1.3.1", ["uidObject"], ["top"], some "RFC4519: uid object", false⟩,
   ⟨"2.16.840.1.113730.3.2.2", ["inetOrgPerson"], ["organizationalPerson"],
    some "RFC2798: Internet Organizational Person", false⟩]

/-- A list of strings on one line. -/
def inlineTexts (texts : List String) : String :=
  "[" ++ ", ".intercalate (texts.map fun text => "\"" ++ text ++ "\"") ++ "]"

/-- The line of an entry, without the comma. Superiors are left out where there are none. -/
def entryLine (entry : Entry) : String :=
  "    \x7b \"oid\": \"" ++ entry.oid ++ "\", \"names\": " ++ inlineTexts entry.names ++
    (if entry.superiors.isEmpty then "" else ", \"sup\": " ++ inlineTexts entry.superiors) ++
    ", \"description\": \"" ++ entry.description.getD "" ++ "\" \x7d"

/-- The lines of a section of the document. -/
def sectionLines (kind : Kind) (entries : List Entry) : String :=
  "  \"" ++ kind.sectionName ++ "\": [\n" ++ ",\n".intercalate (entries.map entryLine) ++ "\n  ]"

/-- The text of the core document. -/
def text : String :=
  "\x7b\n  \"name\": \"core\",\n" ++ sectionLines .attributeType attributeTypes ++ ",\n" ++
    sectionLines .objectClass objectClasses ++ "\n\x7d\n"

/-- The files built into the program: the core document. -/
def files : List (String × ByteArray) := [("core.json", text.toUTF8)]

end Subschema.Core
