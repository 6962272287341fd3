import LiveLesson.Text.Blank
import LiveLesson.Wire.Basic

/-!
Numbers that name things. Each kind of thing has identifiers of its own, so that a course is never
taken for a session. As text an identifier is a decimal 64-bit integer, read with blanks around it
or not.
-/

namespace LiveLesson

inductive Entity where
  | session
  | course
  | question
  | student
  deriving DecidableEq, Repr

structure Id (e : Entity) where
  value : Int
  deriving DecidableEq, Repr, Inhabited

abbrev SessionId := Id .session

abbrev CourseId := Id .course

abbrev QuestionId := Id .question

abbrev StudentId := Id .student

namespace Id

variable {e : Entity}

def text (i : Id e) : String := toString i.value

def read (s : String) : Except Text.IntegerError (Id e) :=
  (Text.readInteger (Text.Range.signed 64) (Text.trim s)).map Id.mk

def wire : Wire (Id e) := Wire.int64.rename Id.mk Id.value

end Id

end LiveLesson
