import UaHeaders.Attribute.Descriptor
import UaHeaders.Text.Lines

/-!
# Accessors

The functions that read and write one node attribute. Every attribute is read by two functions, one
that waits for the answer and one that takes a completion token, and a writeable attribute is written
by two more. A fragment holds one such pair, as the lines of C++ source that declare it.

## Main definitions

* `UaHeaders.Connection` — the handles that accessors take.
* `UaHeaders.Descriptor.readLines`, `UaHeaders.Descriptor.writeLines` — the pairs.
* `UaHeaders.Descriptor.fragments`, `UaHeaders.DescriptorTable.fragments` — the accessors of one
  attribute and of a table.
-/

set_option autoImplicit false

namespace UaHeaders

/-- **The connection an accessor goes through.** -/
inductive Connection where
  /-- Any handle that can read and write attributes, a client or a server. -/
  | any
  /-- The client, which alone can ask without waiting. -/
  | client
  deriving DecidableEq, Inhabited

/-- The parameter that takes the connection. -/
def Connection.declaration : Connection → String
  | any => "T& connection"
  | client => "Client& connection"

/-- What the documentation says of the connection. -/
def Connection.doc : Connection → String
  | any => "Instance of type Client (or Server)"
  | client => "Instance of type Client"

namespace Descriptor

/-- The comment line for the extra sentence; without one it holds the continuation mark only. -/
def detailLine (d : Descriptor) : String := " * " ++ d.detail.getD ""

/-- **The functions that read an attribute.** -/
def readLines (d : Descriptor) : List String :=
  ["/**",
    " * Read the AttributeId::" ++ d.name ++ " attribute of a node.",
    d.detailLine,
    " * @param connection " ++ Connection.any.doc,
    " * @param id Node to read",
    " * @ingroup Read",
    " */",
    "template <typename T>",
    "inline Result<" ++ d.valueType ++ "> read" ++ d.name ++ "(" ++ Connection.any.declaration ++
      ", const NodeId& id) noexcept \x7b",
    "    return detail::readAttributeImpl<AttributeId::" ++ d.name ++ ">(connection, id);",
    "\x7d",
    "",
    "/**",
    " * Asynchronously read the AttributeId::" ++ d.name ++ " attribute of a node.",
    " * @copydetails read" ++ d.name,
    " * @param token @completiontoken\x7bvoid(" ++ d.completionType ++ ")\x7d",
    " * @return @asyncresult\x7bResult<" ++ d.valueType ++ ">\x7d",
    " * @ingroup Read",
    " */",
    "template <typename CompletionToken = DefaultCompletionToken>",
    "inline auto read" ++ d.name ++ "Async(",
    "    " ++ Connection.client.declaration ++
      ", const NodeId& id, CompletionToken&& token = DefaultCompletionToken()",
    ") \x7b",
    "    return detail::readAttributeAsyncImpl<AttributeId::" ++ d.name ++ ">(",
    "        connection, id, std::forward<CompletionToken>(token)",
    "    );",
    "\x7d"]

/-- **The functions that write an attribute.** -/
def writeLines (d : Descriptor) : List String :=
  ["/**",
    " * Write the AttributeId::" ++ d.name ++ " attribute of a node.",
    d.detailLine,
    " * @param connection " ++ Connection.any.doc,
    " * @param id Node to write",
    " * @param " ++ d.paramName ++ " Value to write",
    " * @ingroup Write",
    " */",
    "template <typename T>",
    "inline StatusCode write" ++ d.name ++ "(" ++ Connection.any.declaration ++
      ", const NodeId& id, " ++ d.writeType ++ " " ++ d.paramName ++ ") noexcept \x7b",
    "    return detail::writeAttributeImpl<AttributeId::" ++ d.name ++ ">(connection, id, " ++
      d.paramName ++ ");",
    "\x7d",
    "",
    "/**",
    " * Asynchronously write the AttributeId::" ++ d.name ++ " attribute of a node.",
    " * @copydetails write" ++ d.name,
    " * @param token @completiontoken\x7bvoid(StatusCode)\x7d",
    " * @return @asyncresult\x7bStatusCode\x7d",
    " * @ingroup Write",
    " */",
    "template <typename CompletionToken = DefaultCompletionToken>",
    "inline auto write" ++ d.name ++ "Async(",
    "    " ++ Connection.client.declaration ++ ",",
    "    const NodeId& id,",
    "    " ++ d.writeType ++ " " ++ d.paramName ++ ",",
    "    CompletionToken&& token = DefaultCompletionToken()",
    ") \x7b",
    "    return detail::writeAttributeAsyncImpl<AttributeId::" ++ d.name ++ ">(",
    "        connection, id, " ++ d.paramName ++ ", std::forward<CompletionToken>(token)",
    "    );",
    "\x7d"]

/-- **The accessors of one attribute**: the pair that reads, then the pair that writes if the attribute
is writeable. -/
def fragments (d : Descriptor) : List String :=
  Text.joinLines d.readLines :: if d.writeable then [Text.joinLines d.writeLines] else []

end Descriptor

/-- **The accessors of a table**, in table order. -/
def DescriptorTable.fragments (table : DescriptorTable) : List String :=
  table.rows.flatMap Descriptor.fragments

end UaHeaders
