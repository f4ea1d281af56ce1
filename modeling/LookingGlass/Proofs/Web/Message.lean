import LookingGlass.Proofs.Text.Octets
import LookingGlass.Web.Message

/-
  What is read of a request whose target and body are texts of
  characters: the parts of the texts, without a loss.

  Main declarations:
    * `Request.path_of_text`
    * `Request.queryString_of_text`
    * `Request.isReadable_of_text`
    * `Request.fields_of_text` and `Request.bodySize_of_text`
-/

namespace LookingGlass.Web.Request

open Text (Octets)

variable {request : Request} {s : String}

------------------------------------------------------------
-- Targets
------------------------------------------------------------

/- The parts of a target are cut as those of its text. -/
theorem cut_target_of_text
    (hTarget : request.target = Octets.ofString s) :
    Text.cut 0x3F request.target.bytes =
      (Text.Utf8.encode (Text.cut '?' s.toList).1,
        (Text.cut '?' s.toList).2.map Text.Utf8.encode) := by
  rw [hTarget]
  exact @Text.Utf8.cut_encode '?' (by decide) s.toList

theorem path_of_text
    (hTarget : request.target = Octets.ofString s) :
    request.path =
      match Text.Percent.decodeLossy (Text.cut '?' s.toList).1 with
      | [] => []
      | cs => '/' :: Text.dropAll '/' cs := by
  have hBytes :
      Text.Percent.unescape request.sentPath.bytes =
        Text.Percent.bytes (Text.cut '?' s.toList).1 := by
    rw [sentPath, cut_target_of_text hTarget,
      Text.Percent.unescape_encode]
  simp only [path, hBytes]
  rfl

theorem sentQuery_of_text
    (hTarget : request.target = Octets.ofString s) :
    request.sentQuery =
      Octets.ofString
        (String.ofList ((Text.cut '?' s.toList).2.getD [])) := by
  rw [sentQuery, cut_target_of_text hTarget, Octets.ofString,
    String.toList_ofList]
  cases (Text.cut '?' s.toList).2 with
  | none => rfl
  | some cs => rfl

theorem queryString_of_text
    (hTarget : request.target = Octets.ofString s) :
    request.queryString = (Text.cut '?' s.toList).2.getD [] := by
  rw [queryString, sentQuery_of_text hTarget, Octets.lossy_ofString,
    String.toList_ofList]

theorem isReadable_of_text
    (hTarget : request.target = Octets.ofString s) :
    request.isReadable = true := by
  rw [isReadable, sentQuery_of_text hTarget]
  exact Octets.isText_ofString _

------------------------------------------------------------
-- Bodies
------------------------------------------------------------

theorem fields_of_text
    (hBody : request.body = some (Octets.ofString s)) :
    request.fields =
      Text.Fields.read Text.Percent.decodeKeeping s.toList := by
  simp only [fields, hBody, Octets.isText_ofString, if_true,
    Octets.lossy_ofString]

theorem bodySize_of_text
    (hBody : request.body = some (Octets.ofString s)) :
    request.bodySize = s.utf8ByteSize := by
  rw [bodySize, hBody]
  exact Text.Utf8.length_encode s

end LookingGlass.Web.Request
