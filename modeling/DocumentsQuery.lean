import DocumentsQuery.Bytes
import DocumentsQuery.UriEscape
import DocumentsQuery.Utf8
import DocumentsQuery.Standard
import DocumentsQuery.Query
import DocumentsQuery.QueryUri
import DocumentsQuery.Decode
import DocumentsQuery.Shape
import DocumentsQuery.Reading
import DocumentsQuery.Heap
import DocumentsQuery.GList
import DocumentsQuery.Memory
import DocumentsQuery.Lifetime
import DocumentsQuery.Shared
