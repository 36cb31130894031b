/-!
# Well-known attributes

The thirteen attributes that an assembly declares once. Eleven of them hold a text, two a flag.
-/

namespace AssemblyInfo

/-- A well-known attribute that is declared once. -/
inductive Field where
  | title
  | description
  | company
  | product
  | version
  | fileVersion
  | informationalVersion
  | copyright
  | trademark
  | configuration
  | guid
  | comVisible
  | clsCompliant
  deriving DecidableEq, Repr

namespace Field

/-- All fields, in the order in which they are written. -/
def all : List Field :=
  [.title, .description, .company, .product, .version, .fileVersion, .informationalVersion,
    .copyright, .trademark, .configuration, .guid, .comVisible, .clsCompliant]

/-- All fields, in the order in which they are looked for. -/
def readingOrder : List Field :=
  [.clsCompliant, .company, .comVisible, .configuration, .copyright, .description, .fileVersion,
    .guid, .informationalVersion, .product, .title, .trademark, .version]

/-- `field.key` is the name of `field` in settings and results. -/
def key : Field → String
  | .title => "title"
  | .description => "description"
  | .company => "company"
  | .product => "product"
  | .version => "version"
  | .fileVersion => "file_version"
  | .informationalVersion => "informational_version"
  | .copyright => "copyright"
  | .trademark => "trademark"
  | .configuration => "configuration"
  | .guid => "guid"
  | .comVisible => "com_visible"
  | .clsCompliant => "cls_compliant"

def attributeName : Field → String
  | .title => "AssemblyTitle"
  | .description => "AssemblyDescription"
  | .company => "AssemblyCompany"
  | .product => "AssemblyProduct"
  | .version => "AssemblyVersion"
  | .fileVersion => "AssemblyFileVersion"
  | .informationalVersion => "AssemblyInformationalVersion"
  | .copyright => "AssemblyCopyright"
  | .trademark => "AssemblyTrademark"
  | .configuration => "AssemblyConfiguration"
  | .guid => "Guid"
  | .comVisible => "ComVisible"
  | .clsCompliant => "CLSCompliant"

def nameSpace : Field → String
  | .guid | .comVisible => "System.Runtime.InteropServices"
  | .clsCompliant => "System"
  | _ => "System.Reflection"

def isFlag : Field → Bool
  | .comVisible | .clsCompliant => true
  | _ => false

def isVersion : Field → Bool
  | .version | .fileVersion | .informationalVersion => true
  | _ => false

theorem mem_all (field : Field) : field ∈ all := by
  cases field <;> decide

end Field

end AssemblyInfo
