import Connector.Text.Blank

/-!
# Status codes

What the number of a response says.  A request was done with a number from 200 to 299.  One from
400 to 499 refuses it for good, except the two that ask to come back: 408, the time ran out, and
429, there are too many requests.  Everything else may pass.  Statement: `isRefusal_iff`.
-/

namespace Connector.Http

/-- The phrases of the known status codes. -/
def reasons : List (Nat × String) :=
  [(100, "Continue"), (101, "Switching Protocols"), (102, "Processing"), (103, "Early Hints"),
   (200, "OK"), (201, "Created"), (202, "Accepted"), (203, "Non Authoritative Information"),
   (204, "No Content"), (205, "Reset Content"), (206, "Partial Content"), (207, "Multi-Status"),
   (208, "Already Reported"), (226, "IM Used"),
   (300, "Multiple Choices"), (301, "Moved Permanently"), (302, "Found"), (303, "See Other"),
   (304, "Not Modified"), (305, "Use Proxy"), (307, "Temporary Redirect"),
   (308, "Permanent Redirect"),
   (400, "Bad Request"), (401, "Unauthorized"), (402, "Payment Required"), (403, "Forbidden"),
   (404, "Not Found"), (405, "Method Not Allowed"), (406, "Not Acceptable"),
   (407, "Proxy Authentication Required"), (408, "Request Timeout"), (409, "Conflict"),
   (410, "Gone"), (411, "Length Required"), (412, "Precondition Failed"),
   (413, "Payload Too Large"), (414, "URI Too Long"), (415, "Unsupported Media Type"),
   (416, "Range Not Satisfiable"), (417, "Expectation Failed"), (418, "I'm a teapot"),
   (421, "Misdirected Request"), (422, "Unprocessable Entity"), (423, "Locked"),
   (424, "Failed Dependency"), (425, "Too Early"), (426, "Upgrade Required"),
   (428, "Precondition Required"), (429, "Too Many Requests"),
   (431, "Request Header Fields Too Large"), (451, "Unavailable For Legal Reasons"),
   (500, "Internal Server Error"), (501, "Not Implemented"), (502, "Bad Gateway"),
   (503, "Service Unavailable"), (504, "Gateway Timeout"), (505, "HTTP Version Not Supported"),
   (506, "Variant Also Negotiates"), (507, "Insufficient Storage"), (508, "Loop Detected"),
   (510, "Not Extended"), (511, "Network Authentication Required")]

/-- The phrase of a status code. -/
def reason (status : Nat) : String := (reasons.lookup status).getD "<unknown status code>"

/-- The text of a status code. -/
def statusText (status : Nat) : String := toString status ++ " " ++ reason status

/-- Whether a request was done. -/
def isSuccess (status : Nat) : Bool := decide (200 ≤ status ∧ status < 300)

/-- Whether a request is refused for good. -/
def isRefusal (status : Nat) : Bool :=
  decide (400 ≤ status ∧ status < 500) && status != 408 && status != 429

/-- What is told of a response that is no success. -/
def detail (status : Nat) (body : String) : String := Text.trim (statusText status ++ " " ++ body)

theorem isRefusal_iff {status : Nat} :
    isRefusal status = true ↔ (400 ≤ status ∧ status < 500) ∧ status ≠ 408 ∧ status ≠ 429 := by
  simp [isRefusal, and_assoc]

end Connector.Http
