/-!
# Explanations

Why each rule of the table matters, what happens to a site that breaks it, and when it may be
ignored.
-/

namespace SiteConf

structure Explanation where
  why : String
  risk : String
  ignore : String
  deriving DecidableEq, Repr

/-- The explanations by rule id. -/
def explanations : List (String × Explanation) :=
  [
    ("security-server-tokens",
      { why :=
          "Exposing the nginx version tells attackers which known vulnerabilities apply to " ++
          "your server."
        risk :=
          "Targeted exploits against that exact version; a routine finding in security " ++
          "audits."
        ignore := "Never needed in production. Safe to ignore on throwaway local setups." }),
    ("security-headers-missing",
      { why := "Security headers instruct browsers how to handle your content."
        risk :=
          "Clickjacking (X-Frame-Options), MIME sniffing (X-Content-Type-Options) and " ++
          "referrer leakage."
        ignore := "If the headers are added by a CDN or load balancer in front of nginx." }),
    ("security-ssl-missing",
      { why :=
          "Without TLS all traffic, including passwords and cookies, travels in plain " ++
          "text."
        risk :=
          "Interception and tampering on any network hop. HTTP/2 and search ranking also " ++
          "need HTTPS."
        ignore :=
          "If TLS terminates on a load balancer and nginx only serves a private network." }),
    ("security-ssl-enabled-missing-certs",
      { why := "Nginx cannot start an SSL server block without certificate and key paths."
        risk := "Deployment fails and the site goes down on the next reload."
        ignore := "Never. Placeholder paths are emitted only so the file stays readable." }),
    ("security-upstream-needs-ssl",
      { why := "Traffic between nginx and a remote backend is unencrypted over plain http://."
        risk :=
          "Requests and responses can be read or altered between data centers or cloud " ++
          "zones."
        ignore := "If the backend sits on the same host or a trusted private network." }),
    ("security-ssl-protocols-outdated",
      { why :=
          "TLSv1.0 and TLSv1.1 have known weaknesses (BEAST, POODLE) and browsers dropped " ++
          "them."
        risk :=
          "Downgrade attacks and failed PCI DSS compliance, which requires TLSv1.2 at " ++
          "minimum."
        ignore :=
          "Only for legacy clients that cannot be upgraded, isolated on their own server." }),
    ("security-no-rate-limiting",
      { why := "Without rate limiting a single client can flood the server with requests."
        risk := "Brute force on login pages, API abuse and denial of service."
        ignore := "If rate limiting is enforced upstream, e.g. by a CDN or WAF." }),
    ("security-basic-auth-no-ssl",
      { why := "Basic auth sends credentials Base64 encoded in every request."
        risk := "Anyone on the network can decode the username and password."
        ignore := "Never on a public network." }),
    ("security-open-autoindex",
      { why :=
          "Directory listing shows the file structure of any directory without an index " ++
          "file."
        risk := "Discovery of backups, configuration files and other sensitive content."
        ignore := "If the location intentionally serves a public file archive." }),
    ("security-hsts-missing",
      { why := "HSTS tells browsers to only ever use HTTPS for this host."
        risk := "First visits and typed URLs can be downgraded to plain HTTP by an attacker."
        ignore := "While testing a new certificate setup; HSTS is hard to undo once cached." }),
    ("perf-gzip-disabled",
      { why := "Gzip shrinks text responses (HTML, CSS, JavaScript, JSON) by 60-80%."
        risk := "Higher bandwidth usage and slower page loads on slow connections."
        ignore := "If compression happens at a CDN or the backend already compresses responses." }),
    ("perf-http2-disabled",
      { why := "HTTP/2 multiplexes requests over one connection and compresses headers."
        risk := "Slower loads for pages with many assets."
        ignore := "If clients are known to lack HTTP/2 support." }),
    ("perf-brotli-disabled",
      { why :=
          "Brotli compresses text 15-25% better than gzip and all modern browsers support " ++
          "it."
        risk := "Larger transfers than necessary for static assets."
        ignore := "If the ngx_brotli module is not installed on the server." }),
    ("perf-no-static-caching",
      { why := "Without cache headers browsers download static assets again on every visit."
        risk := "Slow repeat visits and extra load on the server."
        ignore := "If assets are served by a CDN with its own caching policy." }),
    ("perf-large-client-body",
      { why := "A body size limit above 100 MB lets clients upload very large files."
        risk := "Disk or memory exhaustion, usable for denial of service."
        ignore := "If the site is built for large uploads, e.g. a media or backup service." }),
    ("perf-low-keepalive",
      { why := "A very low keepalive timeout forces clients to reconnect frequently."
        risk := "Extra TCP and TLS handshakes add latency to every request."
        ignore := "Under connection exhaustion, as a short term measure." }),
    ("correctness-proxy-enabled-without-backend",
      { why := "A proxy location without a backend target cannot route requests."
        risk := "Immediate 502/500 class failures for incoming traffic."
        ignore := "Never." }),
    ("correctness-upstream-without-servers",
      { why := "An upstream pool with no servers is not generated at all."
        risk := "proxy_pass targets naming the pool fail nginx -t or return 502."
        ignore := "Never." }),
    ("correctness-proxy-location-without-target",
      { why := "proxy_pass without a target is not a valid nginx directive."
        risk := "The configuration fails to load."
        ignore := "Never." }),
    ("correctness-redirect-without-target",
      { why :=
          "return 301 without a URL answers with a bare status code and no Location " ++
          "header."
        risk := "Clients do not follow the redirect."
        ignore := "If a bare status code is really what you want." }),
    ("bp-http-redirect-without-ssl",
      { why := "Redirecting HTTP to HTTPS without SSL configured points clients at nothing."
        risk := "Redirect loops or connection refused errors."
        ignore := "Never." }),
    ("bp-worker-connections-low",
      { why := "worker_connections caps simultaneous connections per worker process."
        risk := "Rejected connections under moderate load."
        ignore :=
          "This rule is disabled: the setting lives in the events context, not in a server " ++
          "block." }),
    ("bp-keepalive-timeout-high",
      { why := "Very high keepalive timeouts keep idle connections open."
        risk := "File descriptors and memory tied up by idle clients."
        ignore := "For long polling clients that benefit from persistent connections." }),
    ("bp-missing-root-or-proxy",
      { why := "Without a root or a proxy_pass nginx has nowhere to take responses from."
        risk := "Every request returns 404."
        ignore := "If all routing is done in custom directives." }),
    ("bp-single-server-upstream",
      { why :=
          "An upstream with one server adds configuration without load balancing or " ++
          "failover."
        risk := "Complexity only; a direct proxy_pass is simpler."
        ignore := "If the upstream is kept for backend keepalive connections or planned growth." }),
    ("bp-logging-disabled",
      { why := "Access logs record every request to the server."
        risk := "No way to debug issues, monitor traffic or detect attacks afterwards."
        ignore := "If requests are logged elsewhere, e.g. at a load balancer." })
  ]

/-- The explanation of a rule. -/
def explanation? (id : String) : Option Explanation := explanations.lookup id

end SiteConf
