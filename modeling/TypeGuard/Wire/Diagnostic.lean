import TypeGuard.Diagnostic
import TypeGuard.Wire.Record

/-!
# Diagnostics in JSON

Further places are left out where there are none.
-/

namespace TypeGuard

open Wire

def RelatedInformation.toJson (r : RelatedInformation) : Json :=
  .obj [("file", .str r.file), ("start", ofUInt32 r.start), ("length", ofUInt32 r.length),
    ("message_text", .str r.message), ("category", .str r.category.tag), ("code", ofUInt32 r.code)]

def Diagnostic.toJson (d : Diagnostic) : Json :=
  let related :=
    if d.related.isEmpty then []
    else [("related_information", .arr (d.related.map RelatedInformation.toJson))]
  .obj ([("file", .str d.file), ("start", ofUInt32 d.start), ("length", ofUInt32 d.length),
    ("message_text", .str d.message), ("category", .str d.category.tag),
    ("code", ofUInt32 d.code)] ++ related)

end TypeGuard
