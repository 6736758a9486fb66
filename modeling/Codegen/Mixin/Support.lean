import Codegen.Mixin.Access

/-!
The members that the templates of most platforms rely on.
-/

namespace Codegen.Mixin

open Codegen.Model

structure SupportSettings where
  delimiter : String := Model.defaultDelimiter
  width : Int := Model.defaultCommentWidth
  mark : String := Model.defaultMark
  deriving Repr, DecidableEq

def supportMembers (s : SupportSettings) : List Member :=
  [⟨.attr, "identifier_name", .identifierName s.mark, true⟩,
   ⟨.objectDatatype, "qualified_identifier", .qualifiedIdentifier s.delimiter, true⟩,
   ⟨.classifier, "qualified_identifier", .qualifiedIdentifier s.delimiter, true⟩,
   ⟨.classifier, "package_identifier", .packageIdentifier s.delimiter, true⟩,
   ⟨.element, "comment_lines", .commentLines s.width, true⟩]

def installSupport (s : SupportSettings) (r : Registry) : Registry :=
  (supportMembers s).foldl Registry.insert r

def platformMembers : List Member :=
  [⟨.classifier, "module_name", .moduleName, true⟩,
   ⟨.classifier, "module_path", .modulePath, true⟩,
   ⟨.classifier, "service_path", .servicePath, true⟩]

def installPlatform (s : SupportSettings) (r : Registry) : Registry :=
  platformMembers.foldl Registry.insert (installSupport s r)

end Codegen.Mixin
